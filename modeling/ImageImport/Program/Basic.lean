import ImageImport.Function
import ImageImport.Language
import ImageImport.Memory
import ImageImport.Text.Quoted

/-!
Contract: programs under construction, who owns them, and who hears of their changes.

A program has a state, which transactions protect, and around it its owners, its listeners and the
gate through which events pass. The events that listeners received are kept in order.

Owns: the types, ownership, closing and the delivery of events.
Does not own: transactions and changes of the state.
-/

namespace ImageImport

structure Consumer where
  id : Nat
deriving DecidableEq, Repr

structure Listener where
  id : Nat
deriving DecidableEq, Repr

inductive Event where
  /-- A committed change, by what changed. -/
  | changed (what : String)
  /-- The gate has been opened again. -/
  | restored
  | closed
deriving DecidableEq, Repr

/-- What a transaction can restore. -/
structure ProgramState where
  spaces : List AddressSpace
  memory : Memory
  symbols : SymbolTable
  functions : FunctionTable
  properties : SortedMap String String
  imageBase : Option Address
  isAnalyzed : Bool
deriving DecidableEq, Repr

/-- A nest of transactions, of which the outermost decides what becomes of the state. -/
structure OpenTransaction where
  /-- The ids and descriptions of the transactions in the nest, innermost first. -/
  nest : List (Nat × String)
  atOpening : ProgramState
  /-- Whether one of the nest has asked for a rollback. -/
  isAborted : Bool
  /-- The changes to be told of when the outermost one commits, in order. -/
  pending : List String
deriving DecidableEq, Repr

structure Program where
  name : String
  language : Language
  compiler : String
  state : ProgramState
  transaction : Option OpenTransaction
  /-- The id of the next transaction. Ids count up from one in sixty-four bits, one for each start
  that succeeds. At one start in each nanosecond they last for more than five hundred years, so no
  run comes to their end, and a number without a bound counts the same. -/
  nextTransaction : Nat
  eventsEnabled : Bool
  listeners : List Listener
  consumers : List Consumer
  isClosed : Bool
  /-- What the listeners received, in order. -/
  deliveries : List (Listener × Event)
deriving DecidableEq, Repr

namespace Program

/-- An empty program of a language, with one owner. -/
def make (name : String) (language : Language) (compiler : String) (consumer : Consumer) :
    Program where
  name := name
  language := language
  compiler := compiler
  state := ⟨language.spaces, .empty, .empty, .empty, .empty, none, false⟩
  transaction := none
  nextTransaction := 1
  eventsEnabled := true
  listeners := []
  consumers := [consumer]
  isClosed := false
  deliveries := []

def memory (program : Program) : Memory := program.state.memory

def symbols (program : Program) : SymbolTable := program.state.symbols

def functions (program : Program) : FunctionTable := program.state.functions

def space? (program : Program) (name : String) : Option AddressSpace :=
  findSpace? program.state.spaces name

def defaultSpace? (program : Program) : Option AddressSpace :=
  program.space? program.language.defaultSpace

def property? (program : Program) (key : String) : Option String :=
  program.state.properties.get? key

def hasTransaction (program : Program) : Bool := program.transaction.isSome

/-- Every listener receives the event, in the order of their registration. -/
def deliver (program : Program) (event : Event) : Program :=
  { program with
    deliveries := program.deliveries ++ program.listeners.map fun listener => (listener, event) }

def addListener (program : Program) (listener : Listener) : Program :=
  { program with listeners := program.listeners ++ [listener] }

/-- Opens or shuts the gate for events; listeners of an open program hear of the opening. -/
def setEventsEnabled (program : Program) (enabled : Bool) : Program :=
  if program.eventsEnabled = enabled then program
  else
    let switched := { program with eventsEnabled := enabled }
    if enabled ∧ ¬ program.isClosed then switched.deliver .restored else switched

/-- The gate only changes itself, and lets the listeners of an open program know if it is opened. -/
theorem setEventsEnabled_eq (program : Program) (enabled : Bool) :
    program.setEventsEnabled enabled = { program with
      eventsEnabled := enabled
      deliveries := program.deliveries ++
        if enabled && !program.eventsEnabled && !program.isClosed then
          program.listeners.map fun listener => (listener, .restored)
        else [] } := by
  unfold setEventsEnabled
  by_cases same : program.eventsEnabled = enabled
  · rw [if_pos same, ← same]
    simp
  · rw [if_neg same]
    cases enabled <;> cases program.isClosed <;> simp_all [deliver]

theorem setEventsEnabled_frame (program : Program) (enabled : Bool) :
    ∃ deliveries, program.setEventsEnabled enabled =
      { program with eventsEnabled := enabled, deliveries } :=
  ⟨_, program.setEventsEnabled_eq enabled⟩

theorem setEventsEnabled_false (program : Program) :
    program.setEventsEnabled false = { program with eventsEnabled := false } := by
  simp [setEventsEnabled_eq]

/-- Opened again, the gate of an open program lets listeners know, and nothing else. -/
theorem setEventsEnabled_true_of_shut {program : Program} (shut : program.eventsEnabled = false)
    (isOpen : program.isClosed = false) :
    program.setEventsEnabled true = { program with
      eventsEnabled := true
      deliveries := program.deliveries ++
        program.listeners.map fun listener => (listener, .restored) } := by
  simp [setEventsEnabled_eq, shut, isOpen]

def isOwnedBy (program : Program) (consumer : Consumer) : Bool :=
  program.consumers.contains consumer

def addConsumer (program : Program) (consumer : Consumer) : Program :=
  if program.isOwnedBy consumer then program
  else { program with consumers := program.consumers ++ [consumer] }

theorem addConsumer_eq (program : Program) (consumer : Consumer) :
    program.addConsumer consumer = { program with
      consumers := if consumer ∈ program.consumers then program.consumers
        else program.consumers ++ [consumer] } := by
  unfold addConsumer
  by_cases owned : consumer ∈ program.consumers
  · simp [isOwnedBy, owned]
  · simp [isOwnedBy, owned]

theorem addConsumer_frame (program : Program) (consumer : Consumer) :
    ∃ consumers, program.addConsumer consumer = { program with consumers } :=
  ⟨_, program.addConsumer_eq consumer⟩

/-- The program closed for good: an open transaction is rolled back, and listeners hear the last
event they will receive. -/
def close (program : Program) : Program :=
  if program.isClosed then program
  else
    let restored :=
      match program.transaction with
      | some nest => { program with state := nest.atOpening, transaction := none }
      | none => program
    { ({ restored with isClosed := true }.deliver .closed) with listeners := [] }

/-- Gives up a claim, and whether there was one; the program closes with its last. -/
def release (program : Program) (consumer : Consumer) : Bool × Program :=
  if program.isOwnedBy consumer then
    let released := { program with consumers := program.consumers.erase consumer }
    (true, if released.consumers.isEmpty then released.close else released)
  else (false, program)

/-- Closing an open program brings back the state at the opening of its outermost transaction, if
one is open, and lets its listeners go with a last event. -/
theorem close_eq_of_isOpen {program : Program} (isOpen : program.isClosed = false) :
    program.close = { program with
      state := program.transaction.elim program.state OpenTransaction.atOpening
      transaction := none
      isClosed := true
      deliveries := program.deliveries ++ program.listeners.map fun listener => (listener, .closed)
      listeners := [] } := by
  unfold close
  rw [isOpen]
  cases held : program.transaction with
  | none => simp [deliver, held]
  | some nest => simp [deliver]

/-- Closing an open program leaves no transaction behind. -/
theorem close_of_isOpen {program : Program} (isOpen : program.isClosed = false) :
    program.close.isClosed = true ∧ program.close.transaction = none ∧
      program.close.consumers = program.consumers ∧
      program.close.nextTransaction = program.nextTransaction := by
  rw [close_eq_of_isOpen isOpen]
  exact ⟨rfl, rfl, rfl, rfl⟩

theorem close_of_isClosed {program : Program} (isClosed : program.isClosed = true) :
    program.close = program := by
  simp [close, isClosed]

theorem release_of_not_owned {program : Program} {consumer : Consumer}
    (notOwned : program.isOwnedBy consumer = false) :
    program.release consumer = (false, program) := by
  simp [release, notOwned]

/-- A release by an owner among others only gives up the claim. -/
theorem release_of_shared {program : Program} {consumer : Consumer}
    (owned : program.isOwnedBy consumer = true) (shared : program.consumers.erase consumer ≠ []) :
    program.release consumer =
      (true, { program with consumers := program.consumers.erase consumer }) := by
  simp [release, owned, shared]

theorem release_of_last {program : Program} {consumer : Consumer}
    (owned : program.isOwnedBy consumer = true) (last : program.consumers.erase consumer = []) :
    program.release consumer = (true, { program with consumers := [] }.close) := by
  simp [release, owned, last]

/-- A release changes the owners alone, or closes the program as well. -/
theorem release_cases (program : Program) (consumer : Consumer) :
    ∃ consumers, (program.release consumer).2 = { program with consumers } ∨
      (program.release consumer).2 = { program with consumers }.close := by
  by_cases owned : program.isOwnedBy consumer = true
  · by_cases last : program.consumers.erase consumer = []
    · exact ⟨[], .inr (by rw [release_of_last owned last])⟩
    · exact ⟨_, .inl (by rw [release_of_shared owned last])⟩
  · rw [Bool.not_eq_true] at owned
    exact ⟨program.consumers, .inl (by rw [release_of_not_owned owned])⟩

def describe (program : Program) : String :=
  "Program \x7b name: " ++ Text.quoted program.name ++ ", language: " ++
    Text.quoted program.language.id ++ ", compiler_spec: " ++ Text.quoted program.compiler ++
    ", blocks: " ++ Text.decimal program.memory.size ++ ", symbols: " ++
    Text.decimal program.symbols.size ++ ", closed: " ++ toString program.isClosed ++ " \x7d"

end Program

end ImageImport
