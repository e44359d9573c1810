import AgentSpec.Yaml.Token.Layout

/-!
# The tokens of a text

A token is handed on once no key can be put before it. A text with a flaw has the tokens that were
handed on before the flaw was met; any other ends in `streamEnd`.
-/

namespace AgentSpec.Yaml

namespace Layout

/-! ## Progress -/

theorem cursor_expireKeys {s t : Layout} (h : s.expireKeys = .ok t) :
    t.cursor = s.cursor ∧ t.ended = s.ended ∧ t.waiting = s.waiting := by
  unfold expireKeys at h
  dsimp only at h
  split at h
  · cases h
  · cases h
    exact ⟨rfl, rfl, rfl⟩

@[simp]
theorem cursor_closeBlocks (s : Layout) (column : Int) :
    (s.closeBlocks column).cursor = s.cursor := by
  unfold closeBlocks
  split <;> rfl

@[simp]
theorem ended_closeBlocks (s : Layout) (column : Int) :
    (s.closeBlocks column).ended = s.ended := by
  unfold closeBlocks
  split <;> rfl

theorem ended_dropKey {s t : Layout} (h : s.dropKey = .ok t) : t.ended = s.ended := by
  unfold dropKey at h
  split at h
  · split at h
    · cases h
    · cases h
      rfl
  · cases h
    rfl

theorem ended_finish {s t : Layout} (h : s.finish = .ok t) : t.ended = true := by
  unfold finish at h
  simp only [bind, Except.bind] at h
  split at h
  · cases h
  · rename_i u hu
    cases h
    have := ended_dropKey hu
    simpa [add] using this

theorem length_addWritten_le {s t : Layout} {b : Beginning} (h : s.addWritten b = .ok t) :
    t.cursor.rest.length ≤ s.cursor.rest.length - 1 := by
  unfold addWritten at h
  simp only [bind, Except.bind] at h
  split at h
  · cases h
  · split at h
    · cases h
    · rename_i r hr
      cases h
      exact Beginning.read_leaves _ _ _ b r.1 r.2 hr

theorem length_skipSpace_le (flow keyAllowed : Bool) (c : Cursor) :
    (skipSpace flow keyAllowed c).2.rest.length ≤ c.rest.length := by
  fun_induction skipSpace flow keyAllowed c with
  | case1 keyAllowed c d _ e hb ih =>
    exact Nat.le_trans ih (Nat.le_of_lt (Nat.lt_of_lt_of_le (Cursor.lineBreak?_lt hb)
      (length_skipInLine_le _ c)))
  | case2 _ c => exact length_skipInLine_le _ c

/-- How much is left to read; the end itself counts for one. -/
def unread (s : Layout) : Nat := if s.ended then 0 else s.cursor.rest.length + 1

theorem unread_advance_lt {s t : Layout} (hs : s.ended = false) (h : s.advance = .ok t) :
    t.unread < s.unread := by
  unfold advance at h
  simp only [bind, Except.bind] at h
  split at h
  · cases h
  · rename_i u hu
    have hc := (cursor_expireKeys hu).1
    have hl : u.cursor.rest.length ≤ s.cursor.rest.length := by
      rw [hc]
      exact length_skipSpace_le _ _ _
    split at h
    · simp [unread, ended_finish h, hs]
    · rename_i hr
      simp only [cursor_closeBlocks] at hr
      split at h
      · have ht := length_addWritten_le h
        rw [cursor_closeBlocks, hr, List.length_cons] at ht
        rw [hr, List.length_cons] at hl
        simp only [unread, hs]
        split
        · simp
        · simp
          omega
      · cases h

end Layout

/-! ## The stream -/

structure TokenStream where
  tokens : List Token
  flaw? : Option Flaw

namespace Layout

/-- The first token held back, once no key can be put before it. -/
def handOn? (s : Layout) : Option (Token × Layout) :=
  match s.waiting with
  | [] => none
  | token :: waiting =>
    if s.awaitsKey then none else some (token, { s with waiting, taken := s.taken + 1 })

theorem handOn?_unread {s t : Layout} {token : Token} (h : s.handOn? = some (token, t)) :
    t.unread = s.unread ∧ t.waiting.length < s.waiting.length := by
  unfold handOn? at h
  split at h
  · cases h
  · rename_i hw
    split at h
    · cases h
    · cases h
      exact ⟨rfl, by simp [hw]⟩

def stream (s : Layout) : TokenStream :=
  match _ : s.expireKeys with
  | .error f => ⟨[], some f⟩
  | .ok t =>
    match _ : t.handOn? with
    | some (token, u) =>
      let more := stream u
      ⟨token :: more.tokens, more.flaw?⟩
    | none =>
      if _ : t.ended then ⟨[], none⟩
      else
        match _ : t.advance with
        | .error f => ⟨[], some f⟩
        | .ok u => stream u
termination_by (s.unread, s.waiting.length)
decreasing_by
  · obtain ⟨hc, he, hw⟩ := cursor_expireKeys ‹s.expireKeys = .ok t›
    obtain ⟨hu, hl⟩ := handOn?_unread ‹t.handOn? = some (token, u)›
    have : u.unread = s.unread := by rw [hu, unread, unread, he, hc]
    rw [this]
    exact Prod.Lex.right _ (hw ▸ hl)
  · obtain ⟨hc, hs, _⟩ := cursor_expireKeys ‹s.expireKeys = .ok t›
    have : t.unread = s.unread := by rw [unread, unread, hs, hc]
    exact Prod.Lex.left _ _ (this ▸ unread_advance_lt (by simpa using ‹¬t.ended = true›) ‹_›)

/-! ## Equations -/

section

variable {s t u : Layout} {f : Flaw} {token : Token}

/-- Once the possible keys are up to date, a token is handed on, or the stream has ended, or it is
advanced. -/
theorem stream_eq (he : s.expireKeys = .ok t) :
    s.stream = match t.handOn? with
      | some (token, u) => ⟨token :: u.stream.tokens, u.stream.flaw?⟩
      | none =>
        if t.ended then ⟨[], none⟩
        else
          match t.advance with
          | .error f => ⟨[], some f⟩
          | .ok u => u.stream := by
  rw [stream]
  split
  · rename_i hf
    cases he.symm.trans hf
  · rename_i ht
    cases he.symm.trans ht
    split
    · rename_i hn
      rw [hn]
    · rename_i hn
      rw [hn]
      by_cases hd : t.ended
      · rw [dif_pos hd]
        exact (if_pos hd).symm
      · rw [dif_neg hd]
        dsimp only
        rw [if_neg hd]
        split
        · rename_i ha
          rw [ha]
        · rename_i ha
          rw [ha]

theorem stream_of_handOn (he : s.expireKeys = .ok t) (hn : t.handOn? = some (token, u)) :
    s.stream = ⟨token :: u.stream.tokens, u.stream.flaw?⟩ := by
  rw [stream_eq he, hn]

theorem stream_of_ended (he : s.expireKeys = .ok t) (hn : t.handOn? = none)
    (hd : t.ended = true) : s.stream = ⟨[], none⟩ := by
  rw [stream_eq he, hn]
  exact if_pos hd

theorem stream_of_flaw (he : s.expireKeys = .ok t) (hn : t.handOn? = none)
    (hd : t.ended = false) (ha : t.advance = .error f) : s.stream = ⟨[], some f⟩ := by
  rw [stream_eq he, hn, hd, ha]
  rfl

theorem stream_of_advance (he : s.expireKeys = .ok t) (hn : t.handOn? = none)
    (hd : t.ended = false) (ha : t.advance = .ok u) : s.stream = u.stream := by
  rw [stream_eq he, hn, hd, ha]
  rfl

end

end Layout

def TokenStream.ofText (text : String) : TokenStream := (Layout.ofText text).stream

end AgentSpec.Yaml
