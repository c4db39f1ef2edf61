import ImageImport.Failure
import ImageImport.Json.Value

/-!
Contract: how outcomes are told to a tool, as JSON.

A success is told by its value, and one without a value by a word. A failure is told by a record of
its kind and its message; of a text that could not be read it is told no more than that.

Owns: the classes of what can be told, and how they combine.
Does not own: the records of single types.
-/

namespace ImageImport

class Reported (α : Type) where
  report : α → Json

class FaultReported (ε : Type) where
  faultReport : ε → Json

export Reported (report)
export FaultReported (faultReport)

namespace Report

variable {α ε : Type}

def problem (kind message : String) : Json :=
  .obj [("error", .str kind), ("message", .str message)]

def unreadable : Json := .obj [("error", .str Failure.serialization.kind)]

def ofFailure (failure : Failure) : Json :=
  if failure = .serialization then unreadable else problem failure.kind failure.message

instance : FaultReported Failure := ⟨ofFailure⟩

instance : FaultReported SourceFault := ⟨fun found => problem found.kind found.message⟩

instance : FaultReported DeviceFault :=
  ⟨fun found => problem (SourceFault.device found).kind found.message⟩

instance : FaultReported String := ⟨problem "Message"⟩

instance : Reported Json := ⟨id⟩

instance : Reported Unit := ⟨fun _ => .str "ok"⟩

instance : Reported String := ⟨.str⟩

instance : Reported Bool := ⟨.bool⟩

instance : Reported Nat := ⟨.ofNat⟩

instance : Reported UInt64 := ⟨fun n => .ofNat n.toNat⟩

instance : Reported UInt8 := ⟨fun n => .ofNat n.toNat⟩

/-- Less is told as minus one, more as one. -/
instance : Reported Ordering :=
  ⟨fun
    | .lt => .int (-1)
    | .eq => .int 0
    | .gt => .int 1⟩

instance [Reported α] : Reported (Option α) := ⟨.ofOption report⟩

instance [Reported α] : Reported (List α) := ⟨fun items => .arr (items.map report)⟩

/-- The report of an outcome: of the value or of the fault. -/
def ofExcept [FaultReported ε] [Reported α] : Except ε α → Json
  | .ok value => report value
  | .error found => faultReport found

instance [FaultReported ε] [Reported α] : Reported (Except ε α) := ⟨ofExcept⟩

instance [Reported α] : CoeOut α Json := ⟨report⟩

end Report

end ImageImport
