import AgentSpec.Yaml.Event.Grammar
import AgentSpec.Yaml.Token.Stream

/-!
# The events of a text

A text holds at most one document. Its events are those up to the first flaw; what follows the
document matters only in that something does.
-/

namespace AgentSpec.Yaml

/-- How the events of a text end. -/
inductive Ending where
  | complete
  | furtherDocument
  | flaw (f : Flaw)

structure EventStream where
  events : List Event
  ending : Ending

/-! ## Documents -/

/-- The meaning of the handles that a document declares. The version may be stated once. -/
def declaredHandles (versionStated : Bool) (handles : Handles) :
    List Token → Except Frame.Stop (Handles × List Token)
  | ⟨.directive (.version major minor), place⟩ :: ts =>
    if versionStated then .error (some (.bare .duplicateVersion place))
    else if major = 1 ∧ (minor = 1 ∨ minor = 2) then declaredHandles true handles ts
    else .error (some (.bare .incompatible place))
  | ⟨.directive (.tag handle meaning), place⟩ :: ts =>
    if (handles.lookup handle).isSome then .error (some (.bare .duplicateHandle place))
    else declaredHandles versionStated ((handle, meaning) :: handles) ts
  | ts => .ok (handles, ts)

def TokenKind.isDirective : TokenKind → Bool
  | .directive _ => true
  | _ => false

/-- Whether a document has no content before this token. -/
def TokenKind.endsDocument (k : TokenKind) : Bool :=
  k.isDirective || [TokenKind.documentStart, .documentEnd, .streamEnd].contains k

/-- A document after its start marker. -/
def markedDocument (handles : Handles) : List Token → Derivation
  | [] => ⟨[], .error none⟩
  | token :: rest =>
    if token.kind.endsDocument then ⟨[.missing token.place], .ok (token :: rest)⟩
    else derive handles [.node true false] (token :: rest)

/-- The document that begins with the first of the tokens. Directives ask for a start marker. -/
def document : List Token → Derivation
  | [] => ⟨[], .error none⟩
  | token :: rest =>
    if token.kind.isDirective ∨ token.kind = .documentStart then
      match declaredHandles false [] (token :: rest) with
      | .error stop => ⟨[], .error stop⟩
      | .ok (_, []) => ⟨[], .error none⟩
      | .ok (handles, marker :: rest) =>
        if marker.kind = .documentStart then markedDocument (handles ++ defaultHandles) rest
        else ⟨[], .error (some (.bare .expectedDocument marker.place))⟩
    else derive defaultHandles [.node true false] (token :: rest)

/-- How the text ends after its document; end markers may be repeated. -/
def endingAfter (ts : List Token) : Ending :=
  match ts.dropWhile fun t => t.kind == .documentEnd with
  | ⟨.streamEnd, _⟩ :: _ => .complete
  | _ => .furtherDocument

namespace EventStream

/-- How the events end where the tokens do. -/
def endingOf (s : TokenStream) : Ending :=
  match s.flaw? with
  | some f => .flaw f
  | none => .complete

def ofTokens (s : TokenStream) : EventStream :=
  match s.tokens with
  | ⟨.streamEnd, _⟩ :: _ => ⟨[], .complete⟩
  | ts =>
    let d := document ts
    match d.outcome with
    | .error (some f) => ⟨d.events, .flaw f⟩
    | .error none => ⟨d.events, endingOf s⟩
    | .ok [] => ⟨d.events, endingOf s⟩
    | .ok rest => ⟨d.events, endingAfter rest⟩

def ofText (text : String) : EventStream := ofTokens (.ofText text)

end EventStream
end AgentSpec.Yaml
