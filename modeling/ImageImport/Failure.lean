import ImageImport.Text.Digits

/-!
Contract: every way in which loading can fail, with its wording.

Owns: the faults of devices and byte sources, the failures of programs, containers and loaders, the
one-line message of each, and the chain of messages below it.
Does not own: when a failure arises.
-/

namespace ImageImport

/-- What a file system or a stream answers when it cannot do what it is asked. -/
inductive DeviceFault where
  | notFound
  | alreadyExists
  | notADirectory
  | isADirectory
  | noSuchDevice
  | nameTooLong
  | nulInName
  | notUtf8
  | reported (message : String)
deriving DecidableEq, Repr

def DeviceFault.message : DeviceFault → String
  | .notFound => "No such file or directory (os error 2)"
  | .alreadyExists => "File exists (os error 17)"
  | .noSuchDevice => "No such device (os error 19)"
  | .notADirectory => "Not a directory (os error 20)"
  | .isADirectory => "Is a directory (os error 21)"
  | .nameTooLong => "File name too long (os error 36)"
  | .nulInName => "file name contained an unexpected NUL byte"
  | .notUtf8 => "stream did not contain valid UTF-8"
  | .reported message => message

/-- What is wrong with a byte source or a content locator. -/
inductive SourceFault where
  | fileTooLarge (limit found : UInt64)
  | outOfBounds (offset length size : UInt64)
  | malformedLocator (text : String)
  | device (fault : DeviceFault)
deriving DecidableEq, Repr

namespace SourceFault

def kind : SourceFault → String
  | .fileTooLarge _ _ => "FileTooLarge"
  | .outOfBounds _ _ _ => "OutOfBounds"
  | .malformedLocator _ => "MalformedLocator"
  | .device _ => "StdIo"

def message : SourceFault → String
  | .fileTooLarge limit found =>
      "File size of " ++ Text.decimal found.toNat ++
        " bytes exceeds the maximum allowed size of " ++ Text.decimal limit.toNat ++ " bytes."
  | .outOfBounds offset length size =>
      "Read of " ++ Text.decimal length.toNat ++ " bytes at offset " ++ Text.hex offset.toNat ++
        " is outside a source of " ++ Text.decimal size.toNat ++ " bytes."
  | .malformedLocator text => "Malformed content locator '" ++ text ++ "'"
  | .device _ => "An underlying I/O error occurred."

/-- The messages of the fault and of what lies below it. -/
def chain (fault : SourceFault) : List String :=
  match fault with
  | .device below => [fault.message, below.message]
  | _ => [fault.message]

end SourceFault

inductive Failure where
  | cancelled
  | device (fault : DeviceFault)
  | source (fault : SourceFault)
  | duplicateName (name : String)
  | invalidName (reason : String)
  /-- Any other failure of a container, with the messages of what lies below it. -/
  | storage (message : String) (below : List String)
  | noTransaction (program : String)
  | transactionMismatch (id : Nat)
  | programClosed (program : String)
  | memoryConflict (reason : String)
  | invalidAddress (reason : String)
  | addressOverflow (reason : String)
  | invalidSymbolName (reason : String)
  | duplicateSymbol (name address : String)
  | overlappingFunction (address : String)
  | invalidOption (reason : String)
  /-- A text is not what a reader of JSON expects; the reason is not kept. -/
  | serialization
  /-- A loader could not make programs of a source, with the messages of what lies below. -/
  | extraction (message : String) (below : List String)
deriving DecidableEq, Repr

namespace Failure

def kind : Failure → String
  | .cancelled => "Cancelled"
  | .device _ => "Io"
  | .source _ => "Source"
  | .duplicateName _ => "DuplicateName"
  | .invalidName _ => "InvalidName"
  | .storage _ _ => "Storage"
  | .noTransaction _ => "NoTransaction"
  | .transactionMismatch _ => "TransactionMismatch"
  | .programClosed _ => "ProgramClosed"
  | .memoryConflict _ => "MemoryConflict"
  | .invalidAddress _ => "InvalidAddress"
  | .addressOverflow _ => "AddressOverflow"
  | .invalidSymbolName _ => "InvalidSymbolName"
  | .duplicateSymbol _ _ => "DuplicateSymbol"
  | .overlappingFunction _ => "OverlappingFunction"
  | .invalidOption _ => "InvalidOption"
  | .serialization => "Serialization"
  | .extraction _ _ => "Extraction"

/-- The failure of a kind that has a message and nothing else to it. -/
def ofMessage? (kind message : String) : Option Failure :=
  [.cancelled, .device (.reported message), .duplicateName message, .invalidName message,
    .noTransaction message, .programClosed message, .memoryConflict message,
    .invalidAddress message, .addressOverflow message, .invalidSymbolName message,
    .overlappingFunction message, .invalidOption message].find? fun failure : Failure =>
      failure.kind = kind

def message : Failure → String
  | .cancelled => "Operation cancelled"
  | .device fault => "I/O error: " ++ fault.message
  | .source fault => "Byte source error: " ++ fault.message
  | .duplicateName name => "Duplicate name: " ++ name
  | .invalidName reason => "Invalid name: " ++ reason
  | .storage message _ => "Storage error: " ++ message
  | .noTransaction program => "No transaction is open on program '" ++ program ++ "'"
  | .transactionMismatch id =>
      "Transaction " ++ Text.decimal id ++ " is not the current transaction"
  | .programClosed program => "Program '" ++ program ++ "' is closed"
  | .memoryConflict reason => "Memory conflict: " ++ reason
  | .invalidAddress reason => "Invalid address: " ++ reason
  | .addressOverflow reason => "Address overflow: " ++ reason
  | .invalidSymbolName reason => "Invalid symbol name: " ++ reason
  | .duplicateSymbol name address => "Duplicate symbol '" ++ name ++ "' at " ++ address
  | .overlappingFunction address => "Overlapping function at " ++ address
  | .invalidOption reason => "Invalid option: " ++ reason
  | .serialization => "Serialization error"
  | .extraction message _ => "Extraction failed: " ++ message

def below : Failure → List String
  | .device fault => [fault.message]
  | .source fault => fault.chain
  | .storage _ below => below
  | .extraction message below => message :: below
  | _ => []

/-- The message of a failure and of everything below it. -/
def chain (failure : Failure) : List String :=
  failure.message :: failure.below

/-- The chain as one text, a line to a message. -/
def report (failure : Failure) : String :=
  "\n  caused by: ".intercalate failure.chain

def isCancelled : Failure → Bool
  | .cancelled => true
  | _ => false

end Failure

end ImageImport
