import ImageImport.Failure

/-!
Contract: what a load has to say to its caller, in order.
-/

namespace ImageImport

structure Log where
  messages : List String
deriving DecidableEq, Repr

namespace Log

def empty : Log := ⟨[]⟩

def add (log : Log) (message : String) : Log := ⟨log.messages ++ [message]⟩

def addAll (log : Log) (messages : List String) : Log := ⟨log.messages ++ messages⟩

@[simp] theorem addAll_nil (log : Log) : log.addAll [] = log := by
  simp [addAll]

theorem addAll_addAll (log : Log) (first second : List String) :
    (log.addAll first).addAll second = log.addAll (first ++ second) := by
  simp [addAll]

def addFailure (log : Log) (failure : Failure) : Log := log.add failure.report

def append (log other : Log) : Log := log.addAll other.messages

def size (log : Log) : Nat := log.messages.length

def isEmpty (log : Log) : Bool := log.messages.isEmpty

/-- The messages, one after another, with a line break between two. -/
def text (log : Log) : String := "\n".intercalate log.messages

end Log

end ImageImport
