import AgentSpec.Proofs.Yaml.Place
import AgentSpec.Yaml.Event.Stream

/-!
# Places of events

A document is derived from its tokens step by step, and each step hands the places of its tokens on
to its events and flaws (`Frame.follows_step`, `proper_derive`). So the events of a text have proper
places, and so has the flaw that they end with: `EventStream.proper_ofText`.
-/

namespace AgentSpec.Yaml

variable {source : String}

/-! ## Events -/

def ProperTokens (source : String) (ts : List Token) : Prop := ∀ t ∈ ts, t.place.Proper source

def ProperEvents (source : String) (es : List Event) : Prop := ∀ e ∈ es, e.place.Proper source

theorem properTokens_cons {t : Token} {ts : List Token} :
    ProperTokens source (t :: ts) ↔ t.place.Proper source ∧ ProperTokens source ts :=
  List.forall_mem_cons

theorem properEvents_cons {e : Event} {es : List Event} :
    ProperEvents source (e :: es) ↔ e.place.Proper source ∧ ProperEvents source es :=
  List.forall_mem_cons

theorem properEvents_nil : ProperEvents source [] := List.forall_mem_nil _

theorem properEvents_singleton {kind : EventKind} {p : Place} (h : p.Proper source) :
    ProperEvents source [⟨kind, p⟩] := by
  intro e he
  rw [List.mem_singleton.mp he]
  exact h

def ProperStop (source : String) (stop : Frame.Stop) : Prop :=
  ∀ f, stop = some f → f.place.Proper source

theorem properStop_none : ProperStop source none := by
  intro f hf
  cases hf

theorem properStop_some {f : Flaw} (h : f.place.Proper source) : ProperStop source (some f) := by
  intro g hg
  cases hg
  exact h

namespace Frame

/-- A step hands proper places on to its events and leaves the others with the tokens. -/
abbrev Follows (source : String) (x : Except Stop Move) : Prop :=
  Meets (ProperStop source) (fun m => ProperEvents source m.events ∧ ProperTokens source m.rest) x

theorem Follows.ok {es : List Event} {fs : List Frame} {ts : List Token}
    (he : ProperEvents source es) (ht : ProperTokens source ts) :
    Follows source (.ok ⟨es, fs, ts⟩) := ⟨he, ht⟩

theorem Follows.none : Follows source (.error Option.none) := properStop_none

theorem Follows.flaw {f : Flaw} (h : f.place.Proper source) : Follows source (.error (some f)) :=
  properStop_some h

variable {ts : List Token}

theorem follows_content {block indentless : Bool} {start : Place} {p : Properties} {token : Token}
    {rest : List Token} (hs : start.Proper source) (h : ProperTokens source (token :: rest)) :
    Follows source (content block indentless start p token rest) := by
  obtain ⟨ht, hr⟩ := properTokens_cons.mp h
  unfold content
  split
  · exact .ok (properEvents_singleton hs) hr
  · exact .ok (properEvents_singleton hs) hr
  · exact .ok (properEvents_singleton hs) hr
  · split
    · exact .ok (properEvents_singleton hs) h
    · split
      · exact .ok (properEvents_singleton hs) hr
      · split
        · exact .ok (properEvents_singleton hs) hr
        · split
          · exact .flaw ht
          · exact .ok (properEvents_singleton hs) h

theorem properties_proper (h : ProperTokens source ts) :
    ProperTokens source (properties ts).rest ∧
      ∀ t p, (properties ts).tag? = some (t, p) → p.Proper source := by
  unfold properties
  split
  · simp only [properTokens_cons] at h
    exact ⟨h.2.2, fun t p hp => by cases hp; exact h.2.1⟩
  · simp only [properTokens_cons] at h
    exact ⟨h.2, fun t p hp => by cases hp⟩
  · simp only [properTokens_cons] at h
    exact ⟨h.2.2, fun t p hp => by cases hp; exact h.1⟩
  · simp only [properTokens_cons] at h
    exact ⟨h.2, fun t p hp => by cases hp; exact h.1⟩
  · exact ⟨h, fun t p hp => by cases hp⟩

theorem meets_expandTag {handles : Handles} {start : Place} {tag? : Option (TagName × Place)}
    (h : ∀ t p, tag? = some (t, p) → p.Proper source) :
    Meets (ProperStop source) (fun _ => True) (expandTag handles start tag?) := by
  unfold expandTag
  split
  · exact .ok trivial
  · split
    · exact .ok trivial
    · split
      · exact .ok trivial
      · exact .error (properStop_some (h _ _ rfl))

theorem follows_stepNode (handles : Handles) (block indentless : Bool)
    (h : ProperTokens source ts) : Follows source (stepNode handles block indentless ts) := by
  unfold stepNode
  split
  · exact .none
  · obtain ⟨ht, hr⟩ := properTokens_cons.mp h
    exact .ok (properEvents_singleton ht) hr
  · rename_i first more _
    obtain ⟨hrest, htag⟩ := properties_proper h
    dsimp only
    split
    · exact .none
    · rename_i token rest hw
      split
      · rename_i he
        exact .error ((meets_expandTag htag).refused he)
      · exact follows_content (properTokens_cons.mp h).1 (hw ▸ hrest)

theorem follows_due (ends : List TokenKind) (node after : Frame) (h : ProperTokens source ts) :
    Follows source (due ends node after ts) := by
  unfold due
  split
  · exact .none
  · split
    · exact .ok (properEvents_singleton (properTokens_cons.mp h).1) h
    · exact .ok properEvents_nil h

theorem follows_stepBlockEntry (start : Place) (h : ProperTokens source ts) :
    Follows source (stepBlockEntry start ts) := by
  unfold stepBlockEntry
  split
  · exact .none
  · obtain ⟨ht, hr⟩ := properTokens_cons.mp h
    split
    · exact follows_due _ _ _ hr
    · split
      · exact .ok (properEvents_singleton ht) hr
      · exact .flaw ht

theorem follows_stepIndentlessEntry (h : ProperTokens source ts) :
    Follows source (stepIndentlessEntry ts) := by
  unfold stepIndentlessEntry
  split
  · exact .none
  · obtain ⟨ht, hr⟩ := properTokens_cons.mp h
    split
    · exact follows_due _ _ _ hr
    · exact .ok (properEvents_singleton ht) h

theorem follows_stepBlockKey (start : Place) (h : ProperTokens source ts) :
    Follows source (stepBlockKey start ts) := by
  unfold stepBlockKey
  split
  · exact .none
  · obtain ⟨ht, hr⟩ := properTokens_cons.mp h
    split
    · exact follows_due _ _ _ hr
    · split
      · exact .ok (properEvents_singleton ht) hr
      · exact .flaw ht

theorem follows_stepBlockValue (start : Place) (h : ProperTokens source ts) :
    Follows source (stepBlockValue start ts) := by
  unfold stepBlockValue
  split
  · exact .none
  · obtain ⟨ht, hr⟩ := properTokens_cons.mp h
    split
    · exact follows_due _ _ _ hr
    · exact .ok (properEvents_singleton ht) h

theorem meets_afterComma (activity : Activity) (problem : Problem) (closing : TokenKind)
    (start : Place) (first : Bool) (h : ProperTokens source ts) :
    Meets (ProperStop source) (ProperTokens source)
      (afterComma activity problem closing start first ts) := by
  unfold afterComma
  split
  · exact .error properStop_none
  · obtain ⟨ht, hr⟩ := properTokens_cons.mp h
    split
    · exact .ok h
    · split
      · exact .ok hr
      · exact .error (properStop_some ht)

theorem follows_stepFlowEntry (start : Place) (first : Bool) (h : ProperTokens source ts) :
    Follows source (stepFlowEntry start first ts) := by
  unfold stepFlowEntry
  have hp := meets_afterComma .flowSequence .expectedSequenceEnd .flowSequenceEnd start first h
  split
  · rename_i he
    exact .error (hp.refused he)
  · exact .none
  · rename_i token rest ha
    have hrest := hp.value ha
    obtain ⟨ht, hr⟩ := properTokens_cons.mp hrest
    split
    · exact .ok (properEvents_singleton ht) hr
    · split
      · exact .ok (properEvents_singleton ht) hr
      · exact .ok properEvents_nil hrest

theorem follows_stepPairKey (h : ProperTokens source ts) : Follows source (stepPairKey ts) := by
  unfold stepPairKey
  split
  · exact .none
  · obtain ⟨ht, hr⟩ := properTokens_cons.mp h
    split
    · exact .ok (properEvents_singleton ht) hr
    · exact .ok properEvents_nil h

theorem follows_stepPairValue (h : ProperTokens source ts) : Follows source (stepPairValue ts) := by
  unfold stepPairValue
  split
  · exact .none
  · obtain ⟨ht, hr⟩ := properTokens_cons.mp h
    split
    · exact follows_due _ _ _ hr
    · exact .ok (properEvents_singleton ht) h

theorem follows_stepPairEnd (h : ProperTokens source ts) : Follows source (stepPairEnd ts) := by
  unfold stepPairEnd
  split
  · exact .none
  · exact .ok (properEvents_singleton (properTokens_cons.mp h).1) h

theorem follows_stepFlowKey (start : Place) (first : Bool) (h : ProperTokens source ts) :
    Follows source (stepFlowKey start first ts) := by
  unfold stepFlowKey
  have hp := meets_afterComma .flowMapping .expectedMappingEnd .flowMappingEnd start first h
  split
  · rename_i he
    exact .error (hp.refused he)
  · exact .none
  · rename_i token rest ha
    have hrest := hp.value ha
    obtain ⟨ht, hr⟩ := properTokens_cons.mp hrest
    split
    · exact .ok (properEvents_singleton ht) hr
    · split
      · exact follows_due _ _ _ hr
      · exact .ok properEvents_nil hrest

theorem follows_stepFlowValue (start : Place) (keyOnly : Bool) (h : ProperTokens source ts) :
    Follows source (stepFlowValue start keyOnly ts) := by
  unfold stepFlowValue
  split
  · exact .none
  · obtain ⟨ht, hr⟩ := properTokens_cons.mp h
    split
    · exact .ok (properEvents_singleton ht) h
    · exact follows_due _ _ _ hr

theorem follows_step (handles : Handles) (f : Frame) (h : ProperTokens source ts) :
    Follows source (f.step handles ts) := by
  cases f with
  | node block indentless => exact follows_stepNode handles block indentless h
  | blockEntry start => exact follows_stepBlockEntry start h
  | indentlessEntry => exact follows_stepIndentlessEntry h
  | blockKey start => exact follows_stepBlockKey start h
  | blockValue start => exact follows_stepBlockValue start h
  | flowEntry start first => exact follows_stepFlowEntry start first h
  | pairKey => exact follows_stepPairKey h
  | pairValue => exact follows_stepPairValue h
  | pairEnd => exact follows_stepPairEnd h
  | flowKey start first => exact follows_stepFlowKey start first h
  | flowValue start keyOnly => exact follows_stepFlowValue start keyOnly h

end Frame

/-! ## Documents -/

/-- All places that a derivation yields are proper. -/
structure Derivation.Proper (source : String) (d : Derivation) : Prop where
  events : ProperEvents source d.events
  outcome : Meets (ProperStop source) (ProperTokens source) d.outcome

theorem Derivation.Proper.stop {stop : Frame.Stop} (h : ProperStop source stop) :
    Derivation.Proper source ⟨[], .error stop⟩ :=
  ⟨properEvents_nil, h⟩

theorem proper_derive (handles : Handles) (fs : List Frame) {ts : List Token}
    (h : ProperTokens source ts) : (derive handles fs ts).Proper source := by
  fun_induction derive handles fs ts with
  | case1 ts => exact ⟨properEvents_nil, h⟩
  | case2 ts f fs stop he => exact .stop ((Frame.follows_step handles f h).refused he)
  | case3 ts f fs m hm more ih =>
    obtain ⟨hevents, hrest⟩ := (Frame.follows_step handles f h).value hm
    have hmore : more.Proper source := ih hrest
    refine ⟨fun e he => ?_, hmore.outcome⟩
    rcases List.mem_append.mp he with he | he
    · exact hevents e he
    · exact hmore.events e he

/-- Directives are declared without a change to the tokens after them. -/
theorem meets_declaredHandles (versionStated : Bool) (handles : Handles) {ts : List Token}
    (h : ProperTokens source ts) :
    Meets (ProperStop source) (fun r => ProperTokens source r.2)
      (declaredHandles versionStated handles ts) := by
  fun_induction declaredHandles versionStated handles ts with
  | case1 | case3 | case4 => exact .error (properStop_some (properTokens_cons.mp h).1)
  | case2 _ _ _ _ _ _ _ _ ih => exact ih (properTokens_cons.mp h).2
  | case5 _ _ _ _ _ _ _ ih => exact ih (properTokens_cons.mp h).2
  | case6 => exact .ok h

theorem proper_markedDocument (handles : Handles) {ts : List Token} (h : ProperTokens source ts) :
    (markedDocument handles ts).Proper source := by
  unfold markedDocument
  split
  · exact .stop properStop_none
  · split
    · exact ⟨properEvents_singleton (properTokens_cons.mp h).1, h⟩
    · exact proper_derive _ _ h

theorem proper_document {ts : List Token} (h : ProperTokens source ts) :
    (document ts).Proper source := by
  unfold document
  split
  · exact .stop properStop_none
  · split
    · have hd := meets_declaredHandles false [] h
      split
      · rename_i he
        exact .stop (hd.refused he)
      · exact .stop properStop_none
      · rename_i handles marker rest hr
        obtain ⟨hm, hr⟩ := properTokens_cons.mp (hd.value hr)
        split
        · exact proper_markedDocument _ hr
        · exact .stop (properStop_some hm)
    · exact proper_derive _ _ h

/-- All places of the events and of the flaw that they end with are proper. -/
structure EventStream.Proper (source : String) (s : EventStream) : Prop where
  events : ProperEvents source s.events
  ending : ∀ f, s.ending = .flaw f → f.place.Proper source

theorem endingOf_proper {s : TokenStream} (h : s.Proper source) {f : Flaw}
    (hf : EventStream.endingOf s = .flaw f) : f.place.Proper source := by
  unfold EventStream.endingOf at hf
  split at hf
  · rename_i hg
    cases hf
    exact h.flaw _ hg
  · cases hf

theorem EventStream.proper_ofTokens {s : TokenStream} (h : s.Proper source) :
    (ofTokens s).Proper source := by
  unfold ofTokens
  split
  · refine ⟨properEvents_nil, fun f hf => ?_⟩
    cases hf
  · have hd := proper_document h.tokens
    dsimp only
    split
    · rename_i hg
      refine ⟨hd.events, fun f hf => ?_⟩
      cases hf
      exact hd.outcome.refused hg _ rfl
    · exact ⟨hd.events, fun f hf => endingOf_proper h hf⟩
    · exact ⟨hd.events, fun f hf => endingOf_proper h hf⟩
    · refine ⟨hd.events, fun f hf => ?_⟩
      dsimp only at hf
      unfold endingAfter at hf
      split at hf
      · cases hf
      · cases hf

theorem EventStream.proper_ofText (text : String) :
    (ofText text).Proper text :=
  proper_ofTokens (TokenStream.proper_ofText text)

end AgentSpec.Yaml
