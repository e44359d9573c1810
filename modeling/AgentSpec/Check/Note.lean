import AgentSpec.Log

/-!
# What a check reports

A check answers with its notes in order: faults, advice and log records. Everything shown about
a document is read off one such list.
-/

namespace AgentSpec

inductive Note where
  | fault (f : Fault)
  | advice (a : Advice)
  | log (r : Record)

def Note.fault? : Note → Option Fault
  | .fault f => some f
  | _ => none

def Note.advice? : Note → Option Advice
  | .advice a => some a
  | _ => none

def Note.record? : Note → Option Record
  | .log r => some r
  | _ => none

def faults (notes : List Note) : List Fault := notes.filterMap Note.fault?

def advices (notes : List Note) : List Advice := notes.filterMap Note.advice?

def records (notes : List Note) : List Record := notes.filterMap Note.record?

def Outcome.ofNotes (notes : List Note) : Outcome :=
  .ofFindings ⟨(faults notes).map Fault.message, (advices notes).map Advice.message⟩

end AgentSpec
