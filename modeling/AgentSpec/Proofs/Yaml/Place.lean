import AgentSpec.Proofs.Yaml.Scan
import AgentSpec.Yaml.Token.Stream
import Mathlib.Logic.Relation

/-!
# Places of tokens

The line and column that the layout carries are those reported for its place, up to the end of the
stream and at it (`Layout.Sound`): every step keeps this, and so it holds wherever the scanner gets
to, `Layout.position_of_reached`. A place that stands for the end of the stream is `Proper` when it
is the end of the text. Only the layout makes such places, and it does when nothing is left to read.
So the tokens of a text have proper places, and so has the flaw that they end with:
`TokenStream.proper_ofText`.
-/

namespace AgentSpec.Yaml

open Text (byteLength)

variable {source : String}

/-- The end of the stream is the end of the text. -/
def Place.Proper (source : String) (p : Place) : Prop :=
  p.atEnd = true → p.offset = byteLength source.toList

theorem Place.proper_of_inside {p : Place} (h : p.atEnd = false) : p.Proper source := by
  intro ha
  rw [h] at ha
  cases ha

theorem Place.Tracked.proper {p : Place} (h : p.Tracked source) : p.Proper source := by
  obtain ⟨c, -, rfl⟩ := h
  exact proper_of_inside rfl

theorem Place.position_of_inside {p : Place} (h : p.atEnd = false) (source : String) :
    p.position source = Text.characterColumn source p.offset := by
  rw [position, h]
  exact if_neg fun hp => Bool.false_ne_true hp.1

/-! ## Layout -/

/-- The line and column kept with a possible key are those of its place. -/
structure PossibleKey.Sound (source : String) (k : PossibleKey) : Prop where
  proper : k.place.Proper source
  position : k.place.position source = ⟨k.line + 1, k.column⟩

namespace Layout

/-- The line and column of the cursor are those reported for the place of the layout, and nothing is
left once the stream has ended. Whatever is held back is at a proper place. -/
structure Sound (source : String) (s : Layout) : Prop where
  cursor : s.cursor.Within source
  position : s.place.position source = ⟨s.cursor.line + 1, s.cursor.column⟩
  ended : s.ended = true → s.cursor.rest = []
  waiting : ∀ t ∈ s.waiting, t.place.Proper source
  keys : ∀ k, some k ∈ s.key :: s.outer → k.Sound source

/-- A step stays sound or is refused at a proper place. -/
abbrev Yields (source : String) (x : Except Flaw Layout) : Prop :=
  Meets (fun f => f.place.Proper source) (Sound source) x

/-- A step that yields a layout and does not end the stream. -/
abbrev Keeps (source : String) (s : Layout) (x : Except Flaw Layout) : Prop :=
  Meets (fun f => f.place.Proper source) (fun t => t.Sound source ∧ t.ended = s.ended) x

variable {s : Layout}

theorem Keeps.ok {t : Layout} (h : t.Sound source) (he : t.ended = s.ended) :
    s.Keeps source (.ok t) := ⟨h, he⟩

theorem Keeps.bind {x : Except Flaw Layout} {g : Layout → Except Flaw Layout}
    (hx : s.Keeps source x) (hg : ∀ t : Layout, t.Sound source → t.Keeps source (g t)) :
    s.Keeps source (x >>= g) := by
  refine Meets.bind hx fun t ht => ?_
  rw [← ht.2]
  exact hg t ht.1

/-- Until the stream has ended, the cursor keeps track of the text. -/
theorem Sound.tracks (h : s.Sound source) (he : s.ended = false) : s.cursor.Tracks source := by
  have hin : s.place.atEnd = false := he
  refine ⟨h.cursor, ?_⟩
  rw [← h.position]
  exact (Place.position_of_inside hin source).symm

theorem Sound.of_tracks (hc : s.cursor.Tracks source) (he : s.ended = false)
    (hw : ∀ t ∈ s.waiting, t.place.Proper source)
    (hk : ∀ k, some k ∈ s.key :: s.outer → k.Sound source) : s.Sound source := by
  refine ⟨hc.within, ?_, fun h => ?_, hw, hk⟩
  · have hin : s.place.atEnd = false := he
    rw [Place.position_of_inside hin]
    exact hc.position
  · rw [he] at h
    cases h

theorem sound_ofText (source : String) : (ofText source).Sound source := by
  refine .of_tracks (Cursor.tracks_ofText source) rfl (fun t ht => ?_) fun k hk => ?_
  · cases ht
  · simp [ofText] at hk

/-- Where the stream has ended, nothing is left. -/
theorem Sound.place (h : s.Sound source) : s.place.Proper source :=
  fun he => h.cursor.offset_of_end (h.ended he)

/-- Between tokens only what is held back and the possible keys change. -/
theorem Sound.of_eq (h : s.Sound source) {t : Layout} (hc : t.cursor = s.cursor)
    (he : t.ended = s.ended) (hw : ∀ k ∈ t.waiting, k.place.Proper source)
    (hk : ∀ k, some k ∈ t.key :: t.outer → k.Sound source) : t.Sound source := by
  refine ⟨hc ▸ h.cursor, ?_, fun ht => hc ▸ h.ended (he ▸ ht), hw, hk⟩
  rw [Layout.place, hc, he]
  exact h.position

theorem Sound.add (h : s.Sound source) (kind : TokenKind) : (s.add kind).Sound source := by
  refine h.of_eq rfl rfl (fun t ht => ?_) h.keys
  rcases List.mem_append.mp ht with ht | ht
  · exact h.waiting t ht
  · rw [List.mem_singleton.mp ht]
    exact h.place

theorem keeps_expireKeys (h : s.Sound source) : s.Keeps source s.expireKeys := by
  unfold expireKeys
  dsimp only
  split
  · exact .error h.place
  · refine .ok (h.of_eq rfl rfl h.waiting fun k hk => ?_) rfl
    rcases List.mem_cons.mp hk with hk | hk
    · obtain ⟨hk, -⟩ := Option.filter_eq_some_iff.mp hk.symm
      exact h.keys k (hk ▸ List.mem_cons_self)
    · obtain ⟨k', hk', he⟩ := List.mem_map.mp hk
      obtain ⟨rfl, -⟩ := Option.filter_eq_some_iff.mp he
      exact h.keys k (List.mem_cons_of_mem _ hk')

theorem keeps_dropKey (h : s.Sound source) : s.Keeps source s.dropKey := by
  unfold dropKey
  split
  · split
    · exact .error h.place
    · refine .ok (h.of_eq rfl rfl h.waiting fun k hk => ?_) rfl
      rcases List.mem_cons.mp hk with hk | hk
      · cases hk
      · exact h.keys k (List.mem_cons_of_mem _ hk)
  · exact .ok h rfl

theorem keeps_saveKey (h : s.Sound source) : s.Keeps source s.saveKey := by
  unfold saveKey
  split
  · refine (keeps_dropKey h).bind fun t ht => ?_
    refine .ok (ht.of_eq rfl rfl ht.waiting fun k hk => ?_) rfl
    rcases List.mem_cons.mp hk with hk | hk
    · cases hk
      exact ⟨h.place, h.position⟩
    · exact ht.keys k (List.mem_cons_of_mem _ hk)
  · exact .ok h rfl

theorem Sound.insert {waiting : List Token} (h : ∀ t ∈ waiting, t.place.Proper source) (n : Nat)
    {new : Token} (hn : new.place.Proper source) :
    ∀ t ∈ waiting.insertIdx n new, t.place.Proper source := by
  intro t ht
  by_cases hlen : n ≤ waiting.length
  · rcases (List.mem_insertIdx hlen).mp ht with rfl | ht
    · exact hn
    · exact h t ht
  · rw [List.insertIdx_of_length_lt (Nat.lt_of_not_le hlen)] at ht
    exact h t ht

theorem Sound.openBlock (h : s.Sound source) (column number : Nat) {start : Token}
    (hs : start.place.Proper source) : (s.openBlock column number start).Sound source := by
  unfold Layout.openBlock
  split
  · exact h.of_eq rfl rfl (Sound.insert h.waiting _ hs) h.keys
  · exact h

theorem ended_openBlock (s : Layout) (column number : Nat) (start : Token) :
    (s.openBlock column number start).ended = s.ended := by
  unfold Layout.openBlock
  split
  · rfl
  · rfl

theorem Sound.closeBlocks (h : s.Sound source) (column : Int) :
    (s.closeBlocks column).Sound source := by
  unfold Layout.closeBlocks
  split
  · exact h
  · refine h.of_eq rfl rfl (fun t ht => ?_) h.keys
    rcases List.mem_append.mp ht with ht | ht
    · exact h.waiting t ht
    · obtain ⟨-, -, rfl⟩ := List.mem_map.mp ht
      exact h.place

theorem keeps_beginEntry (h : s.Sound source) (problem : Problem) (start : TokenKind) :
    s.Keeps source (s.beginEntry problem start) := by
  unfold beginEntry
  split
  · exact .ok h rfl
  · split
    · exact .ok (h.openBlock _ _ h.place) (ended_openBlock _ _ _ _)
    · exact .error h.place

theorem keeps_completeKey (h : s.Sound source) {k : PossibleKey} (hk : s.key = some k) :
    s.Keeps source (.ok (s.completeKey k)) := by
  have hplace : k.place.Proper source := (h.keys k (hk ▸ List.mem_cons_self)).proper
  unfold completeKey
  refine .ok (Sound.openBlock ?_ _ _ hplace) (ended_openBlock _ _ _ _)
  refine h.of_eq rfl rfl (Sound.insert h.waiting _ hplace) fun k' hk' => ?_
  rcases List.mem_cons.mp hk' with hk' | hk'
  · cases hk'
  · exact h.keys k' (List.mem_cons_of_mem _ hk')

/-- A flag may change freely. -/
theorem Sound.allow (h : s.Sound source) (keyAllowed : Bool) :
    Sound source { s with keyAllowed } := h.of_eq rfl rfl h.waiting h.keys

theorem keeps_prepare (h : s.Sound source) (b : Beginning) : s.Keeps source (s.prepare b) := by
  have hclose : s.Keeps source (.ok (s.closeBlocks (-1))) :=
    .ok (h.closeBlocks _) (ended_closeBlocks s _)
  cases b with
  | directive | documentStart | documentEnd =>
    exact (hclose.bind fun t ht => keeps_dropKey ht).bind fun t ht => .ok (ht.allow _) rfl
  | flowSequenceStart | flowMappingStart =>
    refine (keeps_saveKey h).bind fun t ht => .ok (ht.of_eq rfl rfl ht.waiting fun k hk => ?_) rfl
    rcases List.mem_cons.mp hk with hk | hk
    · cases hk
    · exact ht.keys k hk
  | flowSequenceEnd | flowMappingEnd =>
    refine (keeps_dropKey h).bind fun t ht => ?_
    split
    · exact .ok (ht.allow _) rfl
    · rename_i k ks hks
      refine .ok (ht.of_eq rfl rfl ht.waiting fun k' hk' => ?_) rfl
      exact ht.keys k' (hks ▸ List.mem_cons_of_mem _ hk')
  | flowEntry => exact (keeps_dropKey h).bind fun t ht => .ok (ht.allow _) rfl
  | blockEntry =>
    exact (keeps_beginEntry h _ _).bind fun t ht =>
      (keeps_dropKey ht).bind fun u hu => .ok (hu.allow _) rfl
  | key =>
    exact (keeps_beginEntry h _ _).bind fun t ht =>
      (keeps_dropKey ht).bind fun u hu => .ok (hu.allow _) rfl
  | value =>
    rw [prepare]
    split
    · rename_i k hk
      exact keeps_completeKey h hk
    · exact (keeps_beginEntry h _ _).bind fun t ht => .ok (ht.allow _) rfl
  | aliasName | anchor | tag | quoted single | plain =>
    exact (keeps_saveKey h).bind fun t ht => .ok (ht.allow _) rfl
  | block literal => exact (keeps_dropKey h).bind fun t ht => .ok (ht.allow _) rfl

theorem tracks_skipMark {c : Cursor} (h : c.Tracks source) : (skipMark c).Tracks source := by
  unfold skipMark
  split
  · rename_i hm
    obtain ⟨r, hr⟩ := List.head?_eq_some_iff.mp hm.2
    have hd := h.along (show c.rest = [byteOrderMark] ++ r from hr)
      (List.forall_mem_singleton.mpr rfl)
    rw [hm.1] at hd
    rw [hr]
    exact hd
  · exact h

theorem tracks_skipSpace {c : Cursor} (flow keyAllowed : Bool) (h : c.Tracks source) :
    (skipSpace flow keyAllowed c).2.Tracks source := by
  have hline : ∀ {d : Cursor} (tabs : Bool), d.Tracks source →
      (skipInLine tabs d).Tracks source := by
    intro d tabs hd
    refine ((tracks_skipMark hd).skip (noBreaks_of_lineBreaks ?_)).skipComment
    cases tabs
    · decide
    · decide
  fun_induction skipSpace flow keyAllowed c with
  | case1 keyAllowed c d _ e hb ih => exact ih ((hline _ h).lineBreak? hb)
  | case2 keyAllowed c => exact hline _ h

theorem yields_addWritten (h : s.Sound source) (he : s.ended = false) {b : Beginning}
    (hb : Beginning.at? s.inFlow s.cursor = some b) : Yields source (s.addWritten b) := by
  have hr := Beginning.tracks_read s.indent (h.tracks he) hb
  refine Meets.bind (keeps_prepare h b) fun t ⟨ht, hte⟩ => ?_
  cases hread : b.read s.inFlow s.indent s.cursor with
  | error f => exact .error (hr.refused hread).proper
  | ok r => exact .ok (.of_tracks (hr.value hread) (hte.trans he) (ht.add r.1.kind).waiting ht.keys)

/-- The stream ends where nothing is left, at the start of a line. -/
theorem yields_finish (h : s.Sound source) (he : s.ended = false) (hr : s.cursor.rest = []) :
    Yields source s.finish := by
  have hposition := (h.tracks he).position
  have hs : Sound source { s with
      cursor := if s.cursor.column = 0 then s.cursor
        else ⟨s.cursor.rest, s.cursor.offset, s.cursor.line + 1, 0⟩
      ended := true } := by
    by_cases hcolumn : s.cursor.column = 0
    · rw [if_pos hcolumn]
      refine ⟨h.cursor, ?_, fun _ => hr, h.waiting, h.keys⟩
      rw [place, Place.position, hposition]
      exact if_neg fun hp => hp.2 hcolumn
    · rw [if_neg hcolumn]
      refine ⟨h.cursor, ?_, fun _ => hr, h.waiting, h.keys⟩
      rw [place, Place.position, hposition]
      exact if_pos ⟨rfl, hcolumn⟩
  exact Meets.bind (keeps_dropKey (hs.closeBlocks (-1))) fun t ⟨ht, _⟩ =>
    .ok ((ht.add .streamEnd).allow _)

theorem yields_advance (h : s.Sound source) (he : s.ended = false) : Yields source s.advance := by
  have htoken : s.toToken.Sound source :=
    .of_tracks (tracks_skipSpace _ _ (h.tracks he)) he h.waiting h.keys
  refine Meets.bind (keeps_expireKeys htoken) fun t ⟨ht, hte⟩ => ?_
  have hc := ht.closeBlocks t.cursor.column
  have hce : (t.closeBlocks t.cursor.column).ended = false :=
    (ended_closeBlocks t _).trans (hte.trans he)
  dsimp only
  split
  · rename_i hr
    exact yields_finish hc hce hr
  · split
    · rename_i hb
      exact yields_addWritten hc hce hb
    · exact .error hc.place

/-! ## Steps -/

theorem Sound.expireKeys (h : s.Sound source) {t : Layout} (he : s.expireKeys = .ok t) :
    t.Sound source := ((keeps_expireKeys h).value he).1

theorem Sound.handOn (h : s.Sound source) {token : Token} {t : Layout}
    (hn : s.handOn? = some (token, t)) : token.place.Proper source ∧ t.Sound source := by
  unfold handOn? at hn
  split at hn
  · cases hn
  · rename_i waiting hw
    split at hn
    · cases hn
    · cases hn
      refine ⟨h.waiting _ (hw ▸ List.mem_cons_self), h.of_eq rfl rfl (fun t ht => ?_) h.keys⟩
      exact h.waiting t (hw ▸ List.mem_cons_of_mem _ ht)

/-- What the stream goes on from once a token was handed on or the layout was advanced. -/
inductive Step (s : Layout) : Layout → Prop where
  | handOn {t u : Layout} {token : Token} (he : s.expireKeys = .ok t)
      (hn : t.handOn? = some (token, u)) : Step s u
  | advance {t u : Layout} (he : s.expireKeys = .ok t) (hd : t.ended = false)
      (ha : t.advance = .ok u) : Step s u

theorem Sound.step (h : s.Sound source) {t : Layout} (hs : s.Step t) : t.Sound source := by
  cases hs with
  | handOn he hn => exact ((h.expireKeys he).handOn hn).2
  | advance he hd ha => exact (yields_advance (h.expireKeys he) hd).value ha

theorem sound_of_reached (h : Relation.ReflTransGen Step (ofText source) s) : s.Sound source := by
  induction h with
  | refl => exact sound_ofText source
  | tail _ hs ih => exact ih.step hs

/-- Wherever the scanner gets to in a text, the line and column that it carries are those reported
for its place. -/
theorem position_of_reached (h : Relation.ReflTransGen Step (ofText source) s) :
    s.place.position source = ⟨s.cursor.line + 1, s.cursor.column⟩ := (sound_of_reached h).position

end Layout

/-! ## Tokens -/

/-- All places of the tokens and of the flaw after them are proper. -/
structure TokenStream.Proper (source : String) (s : TokenStream) : Prop where
  tokens : ∀ t ∈ s.tokens, t.place.Proper source
  flaw : ∀ f, s.flaw? = some f → f.place.Proper source

theorem Layout.Sound.stream {s : Layout} (h : s.Sound source) : s.stream.Proper source := by
  fun_induction Layout.stream s with
  | case1 s f hf =>
    refine ⟨fun t ht => ?_, fun g hg => ?_⟩
    · cases ht
    · cases hg
      exact (Layout.keeps_expireKeys h).refused hf
  | case2 s t ht token u hu more ih =>
    have hmore : more.Proper source := ih (h.step (.handOn ht hu))
    refine ⟨fun t' ht' => ?_, hmore.flaw⟩
    rcases List.mem_cons.mp ht' with rfl | ht'
    · exact ((h.expireKeys ht).handOn hu).1
    · exact hmore.tokens t' ht'
  | case3 s t ht _ _ =>
    refine ⟨fun t ht => ?_, fun g hg => ?_⟩
    · cases ht
    · cases hg
  | case4 s t ht _ he f hf =>
    refine ⟨fun t ht => ?_, fun g hg => ?_⟩
    · cases ht
    · cases hg
      exact (Layout.yields_advance (h.expireKeys ht) (by simpa using he)).refused hf
  | case5 s t ht _ he u hu ih => exact ih (h.step (.advance ht (by simpa using he) hu))

theorem TokenStream.proper_ofText (text : String) : (TokenStream.ofText text).Proper text :=
  (Layout.sound_ofText text).stream

end AgentSpec.Yaml
