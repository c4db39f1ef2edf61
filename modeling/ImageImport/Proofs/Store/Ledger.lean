import Mathlib.Data.List.Forall2
import Mathlib.Data.List.Nodup
import Mathlib.Data.List.Sort
import Mathlib.Order.Defs.LinearOrder
import Mathlib.Data.String.Basic
import ImageImport.Proofs.Store.FreeName
import ImageImport.Store.Storage

/-!
Contract: storages that answer their clients from nothing but the names that were stored.

A client holds folders of a storage: the first one, and those that it has made since. Its ledger
says where each of them is, and which names were stored in which place; it is written from calls and
answers alone. A storage follows the ledger if every answer can be read off it. Two storages that do
so give the same answers, whatever they keep.

Owns: calls on a storage and their history, the ledger of a history, and what it takes to follow it.
Does not own: the storages that do.
-/

namespace ImageImport

namespace Storage

variable {κ σ : Type}

/-! ## Calls one after another -/

/-- What a folder can be asked to do. -/
inductive Request where
  | createFile (name : String) (program : Program) (monitor : Monitor)
  | createFolder (name : String)
  | contains (name : String)
  | fileNames

/-- A request of one of the folders that a client holds, by its number. -/
structure Call where
  number : Nat
  request : Request

inductive Answer where
  | created (result : Except Failure Unit) (monitor : Monitor)
  | opened (result : Except Failure Unit)
  | found (isThere : Bool)
  | listed (names : List String)
  /-- The client holds no folder of this number. -/
  | noFolder
deriving DecidableEq

structure Client (κ σ : Type) where
  folders : List κ
  store : σ

def performIn (storage : Storage κ σ) (client : Client κ σ) (folder : κ) :
    Request → Answer × Client κ σ
  | .createFile name program monitor =>
      let done := (storage.createFile folder name program).apply (monitor, client.store)
      (.created done.1 done.2.1, { client with store := done.2.2 })
  | .createFolder name =>
      match (storage.createFolder folder name).apply client.store with
      | (.ok child, store) => (.opened (.ok ()), ⟨client.folders ++ [child], store⟩)
      | (.error failure, store) => (.opened (.error failure), { client with store })
  | .contains name => (.found (storage.contains folder name client.store), client)
  | .fileNames => (.listed (storage.fileNames folder client.store), client)

/-- The answer to a call, and the client after it. A folder that was made is held from then on. -/
def perform (storage : Storage κ σ) (call : Call) (client : Client κ σ) : Answer × Client κ σ :=
  match client.folders[call.number]? with
  | none => (.noFolder, client)
  | some folder => storage.performIn client folder call.request

/-- Calls one after another, with their answers. -/
def performAll (storage : Storage κ σ) :
    List Call → Client κ σ → List (Call × Answer) × Client κ σ
  | [], client => ([], client)
  | call :: rest, client =>
      let (answer, next) := storage.perform call client
      let (history, last) := storage.performAll rest next
      ((call, answer) :: history, last)

/-! ## The ledger of a history -/

/-- Where the folders of a client are, and what was stored where. -/
structure Ledger where
  places : List (List String)
  files : List (List String × String)

/-- The names that were stored in a place. -/
def namesIn (files : List (List String × String)) (place : List String) : List String :=
  (files.filter fun file => file.1 = place).map Prod.snd

def sorted (names : List String) : List String := names.mergeSort fun left right => left ≤ right

namespace Ledger

/-- There is one folder, and nothing in it. -/
def start : Ledger := ⟨[[]], []⟩

/-- The ledger after an answer. Only a success changes it. -/
def note (ledger : Ledger) (event : Call × Answer) : Ledger :=
  match ledger.places[event.1.number]?, event.1.request, event.2 with
  | some place, .createFile name _ _, .created (.ok ()) _ =>
      { ledger with files := (place, name) :: ledger.files }
  | some place, .createFolder name, .opened (.ok ()) =>
      { ledger with places := ledger.places ++ [place ++ [name]] }
  | _, _, _ => ledger

def ofHistory (history : List (Call × Answer)) : Ledger := history.foldl note start

/-- What becomes of a file under a name, where so much is stored. -/
def outcome (files : List (List String × String)) (place : List String) (name : String)
    (monitor : Monitor) : Except Failure Unit :=
  match monitor.check.1, validateName name with
  | .error failure, _ => .error failure
  | .ok (), .error failure => .error failure
  | .ok (), .ok () =>
      if name ∈ namesIn files place then .error (.duplicateName name) else .ok ()

def answerIn (files : List (List String × String)) (place : List String) : Request → Answer
  | .createFile name _ monitor => .created (outcome files place name monitor) monitor.check.2
  | .createFolder name => .opened (validateName name)
  | .contains name => .found (decide (name ∈ namesIn files place))
  | .fileNames => .listed (sorted (namesIn files place))

/-- The answer that a ledger gives. -/
def answer (ledger : Ledger) (call : Call) : Answer :=
  match ledger.places[call.number]? with
  | none => .noFolder
  | some place => answerIn ledger.files place call.request

/-- The history that a ledger foretells. -/
def foretell : List Call → Ledger → List (Call × Answer)
  | [], _ => []
  | call :: rest, ledger =>
      let event := (call, ledger.answer call)
      event :: foretell rest (ledger.note event)

/-- Only names that may be stored are stored, and each of them once. -/
structure Sound (files : List (List String × String)) : Prop where
  valid : ∀ {place name}, name ∈ namesIn files place → validateName name = .ok ()
  nodup : ∀ place, (namesIn files place).Nodup

end Ledger

theorem namesIn_cons (files : List (List String × String)) (place other : List String)
    (name : String) :
    namesIn ((place, name) :: files) other =
      if other = place then name :: namesIn files other else namesIn files other := by
  unfold namesIn
  by_cases same : other = place
  · simp [same]
  · simp [same, Ne.symm same]

namespace Ledger

variable {ledger : Ledger} {files : List (List String × String)} {place : List String}
  {name : String} {monitor : Monitor}

theorem outcome_eq_ok_iff :
    outcome files place name monitor = .ok () ↔
      monitor.check.1 = .ok () ∧ validateName name = .ok () ∧ name ∉ namesIn files place := by
  unfold outcome
  cases monitor.check.1 with
  | error failure => simp
  | ok _ =>
      cases validateName name with
      | error failure => simp
      | ok _ => simp

theorem Sound.cons (sound : Sound files) (valid : validateName name = .ok ())
    (free : name ∉ namesIn files place) : Sound ((place, name) :: files) := by
  refine ⟨fun {other stored} member => ?_, fun other => ?_⟩
  · rw [namesIn_cons] at member
    split at member
    · rcases List.mem_cons.mp member with rfl | before
      · exact valid
      · exact sound.valid before
    · exact sound.valid member
  · rw [namesIn_cons]
    split
    · next same =>
        subst same
        exact List.nodup_cons.mpr ⟨free, sound.nodup other⟩
    · exact sound.nodup other

/-- A name is a duplicate exactly where it was stored, if the monitor lets the call get so far. -/
theorem Sound.outcome_eq_duplicateName_iff (sound : Sound files) :
    outcome files place name monitor = .error (.duplicateName name) ↔
      monitor.check.1 = .ok () ∧ name ∈ namesIn files place := by
  unfold outcome
  cases checked : monitor.check.1 with
  | error failure =>
      have cancelled : failure = .cancelled := Monitor.eq_cancelled_of_check checked
      simp [cancelled]
  | ok _ =>
      cases validated : validateName name with
      | error failure =>
          obtain ⟨reason, rfl⟩ := invalidName_of_validateName validated
          have notStored : name ∉ namesIn files place := fun stored =>
            nomatch validated.symm.trans (sound.valid stored)
          simp [notStored]
      | ok _ => simp

end Ledger

open Ledger

theorem sorted_perm (names : List String) : (sorted names).Perm names :=
  List.mergeSort_perm _ _

theorem sorted_increasing {names : List String} (nodup : names.Nodup) :
    (sorted names).Pairwise (· < ·) := by
  have inOrder : (sorted names).Pairwise (· ≤ ·) := List.pairwise_mergeSort' (· ≤ ·) names
  have different : (sorted names).Pairwise (· ≠ ·) := (sorted_perm names).nodup_iff.mpr nodup
  exact inOrder.imp₂ (fun _ _ => lt_of_le_of_ne) different

theorem sorted_eq_self {names : List String} (increasing : names.Pairwise (· < ·)) :
    sorted names = names :=
  List.mergeSort_eq_self (· ≤ ·) (increasing.imp le_of_lt)

theorem sorted_congr {names others : List String} (perm : names.Perm others) :
    sorted names = sorted others :=
  ((sorted_perm names).trans (perm.trans (sorted_perm others).symm)).eq_of_pairwise
    (fun _ _ _ _ => le_antisymm) (List.pairwise_mergeSort' (· ≤ ·) names)
    (List.pairwise_mergeSort' (· ≤ ·) others)

/-! ## Storages that follow a ledger -/

variable {storage : Storage κ σ} {Plain : Request → Prop}
  {At : σ → κ → List String → Prop} {Has : σ → List (List String × String) → Prop}

/-- Every folder stays where it is. -/
def StaysAt (At : σ → κ → List String → Prop) (before after : σ) : Prop :=
  ∀ {folder place}, At before folder place → At after folder place

/-- A storage in which folders have places and stores have files, so that a plain request is
answered from the files of the place, and a success adds what it says. -/
structure Follows (storage : Storage κ σ) (Plain : Request → Prop)
    (At : σ → κ → List String → Prop) (Has : σ → List (List String × String) → Prop) : Prop where
  createFile_of_ok : ∀ {store folder place files name monitor}, At store folder place →
    Has store files → outcome files place name monitor = .ok () → ∀ program, ∃ after,
      (storage.createFile folder name program).apply (monitor, store) =
          (.ok (), monitor.check.2, after) ∧
        Has after ((place, name) :: files) ∧ StaysAt At store after
  createFile_of_error : ∀ {store folder place files name monitor failure}, At store folder place →
    Has store files → outcome files place name monitor = .error failure → ∀ program,
      (storage.createFile folder name program).apply (monitor, store) =
        (.error failure, monitor.check.2, store)
  createFolder_of_ok : ∀ {store folder place files name}, At store folder place →
    Has store files → Plain (.createFolder name) → validateName name = .ok () → ∃ child after,
      (storage.createFolder folder name).apply store = (.ok child, after) ∧
        At after child (place ++ [name]) ∧ Has after files ∧ StaysAt At store after
  createFolder_of_error : ∀ folder {name failure}, validateName name = .error failure →
    ∀ store, (storage.createFolder folder name).apply store = (.error failure, store)
  contains_iff : ∀ {store folder place files name}, At store folder place → Has store files →
    Sound files → Plain (.contains name) →
      (storage.contains folder name store = true ↔ name ∈ namesIn files place)
  fileNames_eq : ∀ {store folder place files}, At store folder place → Has store files →
    storage.fileNames folder store = sorted (namesIn files place)

/-- What stands between a client and its ledger. -/
structure Stands (At : σ → κ → List String → Prop) (Has : σ → List (List String × String) → Prop)
    (client : Client κ σ) (ledger : Ledger) : Prop where
  folders : List.Forall₂ (At client.store) client.folders ledger.places
  files : Has client.store ledger.files
  sound : Sound ledger.files

section Running

variable {client : Client κ σ} {ledger : Ledger} {folder : κ} {place : List String}

theorem Follows.performIn (follows : Follows storage Plain At Has)
    (stands : Stands At Has client ledger) {number : Nat}
    (placed : ledger.places[number]? = some place) (folderAt : At client.store folder place)
    {request : Request} (plain : Plain request) :
    (storage.performIn client folder request).1 = answerIn ledger.files place request ∧
      Stands At Has (storage.performIn client folder request).2
        (ledger.note (⟨number, request⟩, answerIn ledger.files place request)) := by
  cases request with
  | createFile name program monitor =>
      cases judged : outcome ledger.files place name monitor with
      | error failure =>
          have done := follows.createFile_of_error folderAt stands.files judged program
          simp only [Storage.performIn, answerIn, judged, done, note, placed]
          exact ⟨trivial, stands⟩
      | ok _ =>
          obtain ⟨after, done, files, stays⟩ :=
            follows.createFile_of_ok folderAt stands.files judged program
          obtain ⟨-, valid, free⟩ := outcome_eq_ok_iff.mp judged
          simp only [Storage.performIn, answerIn, judged, done, note, placed]
          exact ⟨trivial, stands.folders.imp fun _ _ => stays, files, stands.sound.cons valid free⟩
  | createFolder name =>
      cases judged : validateName name with
      | error failure =>
          have done := follows.createFolder_of_error folder judged client.store
          simp only [Storage.performIn, answerIn, judged, done, note, placed]
          exact ⟨trivial, stands⟩
      | ok _ =>
          obtain ⟨child, after, done, childAt, files, stays⟩ :=
            follows.createFolder_of_ok folderAt stands.files plain judged
          simp only [Storage.performIn, answerIn, judged, done, note, placed]
          refine ⟨trivial, ?_, files, stands.sound⟩
          exact List.rel_append (stands.folders.imp fun _ _ => stays) (.cons childAt .nil)
  | contains name =>
      have found := follows.contains_iff folderAt stands.files stands.sound plain
      simp only [Storage.performIn, answerIn, note, placed]
      have same : storage.contains folder name client.store =
          decide (name ∈ namesIn ledger.files place) := by
        rw [Bool.eq_iff_iff, found, decide_eq_true_iff]
      exact ⟨congrArg Answer.found same, stands⟩
  | fileNames =>
      simp only [Storage.performIn, answerIn, note, placed]
      exact ⟨by rw [follows.fileNames_eq folderAt stands.files], stands⟩

/-- One call is answered as the ledger says, and the ledger is kept. -/
theorem Follows.perform (follows : Follows storage Plain At Has)
    (stands : Stands At Has client ledger) {call : Call} (plain : Plain call.request) :
    (storage.perform call client).1 = ledger.answer call ∧
      Stands At Has (storage.perform call client).2 (ledger.note (call, ledger.answer call)) := by
  have sameLength := stands.folders.length_eq
  unfold Storage.perform Ledger.answer
  cases held : client.folders[call.number]? with
  | none =>
      have nowhere : ledger.places[call.number]? = none := by
        rw [List.getElem?_eq_none_iff] at held ⊢
        omega
      simp only [nowhere, note]
      exact ⟨trivial, stands⟩
  | some folder =>
      obtain ⟨inFolders, rfl⟩ := List.getElem?_eq_some_iff.mp held
      have inPlaces : call.number < ledger.places.length := by omega
      have placed := List.getElem?_eq_getElem inPlaces
      have folderAt := stands.folders.get inFolders inPlaces
      simp only [placed]
      exact follows.performIn stands placed folderAt plain

/-- A history is the one that the ledger foretells, and the ledger of the history is kept. -/
theorem Follows.performAll (follows : Follows storage Plain At Has) {calls : List Call}
    (plain : ∀ call ∈ calls, Plain call.request) (stands : Stands At Has client ledger) :
    (storage.performAll calls client).1 = foretell calls ledger ∧
      Stands At Has (storage.performAll calls client).2
        ((storage.performAll calls client).1.foldl note ledger) := by
  induction calls generalizing client ledger with
  | nil => exact ⟨rfl, stands⟩
  | cons call rest inductionHypothesis =>
      obtain ⟨plainCall, plainRest⟩ := List.forall_mem_cons.mp plain
      obtain ⟨answered, next⟩ := follows.perform stands plainCall
      obtain ⟨history, last⟩ := inductionHypothesis plainRest next
      simp only [Storage.performAll, foretell, answered, history, List.foldl_cons]
      rw [history] at last
      exact ⟨trivial, last⟩

end Running

/-! ## What a folder shows -/

/-- A folder shows exactly these names, whichever way it is asked, if the question is plain. -/
structure Shows (storage : Storage κ σ) (Plain : Request → Prop) (folder : κ) (store : σ)
    (names : List String) : Prop where
  listed_increasing : (storage.fileNames folder store).Pairwise (· < ·)
  mem_listed_iff : ∀ name, name ∈ storage.fileNames folder store ↔ name ∈ names
  contains_iff : ∀ name, Plain (.contains name) →
    (storage.contains folder name store = true ↔ name ∈ names)
  isDuplicate_iff : ∀ name program monitor,
    ((storage.createFile folder name program).apply (monitor, store)).1 =
        .error (.duplicateName name) ↔
      monitor.check.1 = .ok () ∧ name ∈ names

/-- Every folder that a client holds shows the names that the ledger has in its place. -/
def ShowsAll (storage : Storage κ σ) (Plain : Request → Prop) (client : Client κ σ)
    (ledger : Ledger) : Prop :=
  List.Forall₂
    (fun folder place => Shows storage Plain folder client.store (namesIn ledger.files place))
    client.folders ledger.places

theorem Follows.shows (follows : Follows storage Plain At Has) {store : σ} {folder : κ}
    {place : List String} {files : List (List String × String)} (folderAt : At store folder place)
    (has : Has store files) (sound : Sound files) :
    Shows storage Plain folder store (namesIn files place) := by
  have listed := follows.fileNames_eq folderAt has
  refine ⟨?_, fun name => ?_, fun name plain => ?_, fun name program monitor => ?_⟩
  · rw [listed]
    exact sorted_increasing (sound.nodup place)
  · rw [listed]
    exact (sorted_perm _).mem_iff
  · exact follows.contains_iff folderAt has sound plain
  · rw [← sound.outcome_eq_duplicateName_iff]
    cases judged : outcome files place name monitor with
    | error failure => rw [follows.createFile_of_error folderAt has judged program]
    | ok _ =>
        obtain ⟨after, done, -⟩ := follows.createFile_of_ok folderAt has judged program
        rw [done]

theorem Stands.showsAll (follows : Follows storage Plain At Has) {client : Client κ σ}
    {ledger : Ledger} (stands : Stands At Has client ledger) :
    ShowsAll storage Plain client ledger :=
  stands.folders.imp fun _ _ folderAt => follows.shows folderAt stands.files stands.sound

end Storage

end ImageImport
