import ImageImport.Load.Binary
import ImageImport.Proofs.Digest.Stream
import ImageImport.Proofs.Load.Append
import ImageImport.Proofs.Program.Creation
import ImageImport.Proofs.Program.DefaultBlocks
import ImageImport.Proofs.Program.Marking
import ImageImport.Proofs.Table.Order

/-!
Contract: images without a format that are made into programs of their own.

The base is an offset of the default space, and the image ends inside that space: these are the only
conditions, and each of them fails with an error of its own. The default blocks of the language come
after the image, so that they can neither stop it nor hide a byte of it.

Owns: the base that options ask for, when an image fits, and the program that is made of it.
Does not own: sources that cannot be read, and monitors that are cancelled.
-/

namespace ImageImport

open Program

namespace ByteSource

variable {source : ByteSource}

/-- A source whose bytes, of which there may be none, are counted in 64 bits, read without a fault,
and handed out by every stream. -/
structure Held (source : ByteSource) : Prop where
  noFault : source.readFault = none
  length_lt : source.bytes.length < 2 ^ 64
  streams : ∀ opened offset, source.openStream opened offset = streamOf source.bytes offset

theorem Held.inMemory (held : source.Held) (nonempty : source.bytes ≠ []) : source.InMemory :=
  ⟨held.noFault, nonempty, held.length_lt⟩

theorem Held.isEmpty_iff (held : source.Held) : source.isEmpty = true ↔ source.bytes = [] := by
  rw [isEmpty, beq_iff_eq]
  constructor
  · intro none
    by_contra nonempty
    exact (held.inMemory nonempty).size_ne_zero none
  · intro empty
    simp [size, empty]

theorem Held.hexDigest_eq {Chain : Type} (held : source.Held) (scheme : Digest.Scheme Chain)
    (opened : Nat) : source.hexDigest scheme opened = .ok (scheme.hexDigest source.bytes) := by
  have whole : source.openStream opened 0 = .ok (Reader.ofBytes source.bytes) := by
    rw [held.streams]
    simp [streamOf, checkBounds]
  simp only [hexDigest, whole, scheme.hexDigestOfReader_ofBytes]

end ByteSource

namespace BinaryLoader

/-! ## The base -/

/-- The base that options ask for: that of the first option of its name, and zero where there is
none. -/
def Asks (options : List LoadOption) (base : Nat) : Prop :=
  match options.find? fun option => option.name == baseAddressName with
  | none => base = 0
  | some option => ∃ value, option.value = .int value ∧ value.toInt = base

/-- Whether so many bytes at a base end inside a space; no bytes do anywhere. -/
def EndsInside (space : AddressSpace) (base length : Nat) : Prop :=
  length = 0 ∨ base + length - 1 ≤ space.maxOffset.toNat

/-- The address of the base. -/
def baseAddress (space : AddressSpace) (base : Nat) : Address :=
  ⟨space.name, space.kind, base.toUInt64, space.bits, none⟩

section Options

variable {options : List LoadOption} {space : AddressSpace} {base : Nat}

theorem Asks.lt (asks : Asks options base) : base < 2 ^ 64 := by
  unfold Asks at asks
  split at asks
  · omega
  · obtain ⟨value, -, same⟩ := asks
    have small := value.toInt_lt
    omega

theorem baseOffset_of_asks (asks : Asks options base) :
    baseOffset options = .ok base.toUInt64 := by
  cases found : options.find? fun option => option.name == baseAddressName with
  | none =>
      rw [Asks, found] at asks
      rw [baseOffset, found, show base = 0 from asks]
      rfl
  | some option =>
      rw [Asks, found] at asks
      obtain ⟨value, isInt, same⟩ := asks
      have notNegative : ¬ value.toInt < 0 := by omega
      simp [baseOffset, found, isInt, same]

/-- Any other value of the option is refused. -/
theorem baseOffset_of_refused {option : LoadOption}
    (found : (options.find? fun option => option.name == baseAddressName) = some option)
    (refused : ∀ value, option.value = .int value → value.toInt < 0) :
    ∃ reason, baseOffset options = .error (.invalidOption reason) := by
  simp only [baseOffset, found]
  split
  · next value isInt =>
      rw [if_pos (refused value isInt)]
      exact ⟨_, rfl⟩
  · exact ⟨_, rfl⟩

/-- Options ask for a base, or have a value that is none. -/
theorem asks_or_refused (options : List LoadOption) :
    (∃ base, Asks options base) ∨ ∃ option,
      (options.find? fun option => option.name == baseAddressName) = some option ∧
      ∀ value, option.value = .int value → value.toInt < 0 := by
  unfold Asks
  cases found : options.find? fun option => option.name == baseAddressName with
  | none => exact .inl ⟨0, rfl⟩
  | some option =>
      by_cases asks : ∃ value, option.value = .int value ∧ 0 ≤ value.toInt
      · obtain ⟨value, isInt, notNegative⟩ := asks
        exact .inl ⟨value.toInt.toNat, value, isInt, (Int.toNat_of_nonneg notNegative).symm⟩
      · refine .inr ⟨option, rfl, fun value isInt => ?_⟩
        by_contra notNegative
        exact asks ⟨value, isInt, not_lt.mp notNegative⟩

theorem baseAddress_toNat (inside : base ≤ space.maxOffset.toNat) :
    (baseAddress space base).offset.toNat = base :=
  Nat.mod_eq_of_lt (inside.trans_lt space.maxOffset.toNat_lt)

theorem inSpace_of_le (inside : base ≤ space.maxOffset.toNat) :
    Address.inSpace space base.toUInt64 = .ok (baseAddress space base) :=
  if_pos (UInt64.le_iff_toNat_le.mpr ((baseAddress_toNat inside).trans_le inside))

theorem inSpace_of_lt (asks : Asks options base) (beyond : space.maxOffset.toNat < base) :
    ∃ reason, Address.inSpace space base.toUInt64 = .error reason := by
  have whole : base.toUInt64.toNat = base := Nat.mod_eq_of_lt asks.lt
  have above : ¬ base.toUInt64 ≤ space.maxOffset := by
    rw [UInt64.le_iff_toNat_le, whole, not_le]
    exact beyond
  exact ⟨_, if_neg above⟩

end Options

/-! ## The image in its program -/

/-- The block that a source becomes at a base. -/
def imageBlock (source : ByteSource) (space : AddressSpace) (base : Nat) : MemoryBlock :=
  ⟨space.name, baseAddress space base, source.size, .all, false, false, .bytes source.bytes,
    source.originText⟩

/-- The memory of a program that holds nothing but a source, which may have no bytes. -/
def imageMemory (source : ByteSource) (space : AddressSpace) (base : Nat) : Memory :=
  if source.isEmpty then .empty else ⟨[imageBlock source space base]⟩

/-- Whether the options ask for a function at the base. -/
def wantsEntry (options : List LoadOption) : Bool :=
  LoadOption.booleanValue entryFunctionName options false

/-- The functions of a program that has only the one that the options ask for. -/
def entryTable (space : AddressSpace) (base : Nat) (options : List LoadOption) : FunctionTable :=
  if wantsEntry options then
    ⟨.insert .empty (baseAddress space base)
      (entryFunction (some "entry") (baseAddress space base))⟩
  else .empty

section Mapping

variable {source : ByteSource} {space : AddressSpace} {base : Nat} {options : List LoadOption}
  {program : Program}

theorem containsRange_imageBlock (held : source.Held) (nonempty : source.bytes ≠ [])
    (inside : base ≤ space.maxOffset.toNat) :
    space.containsRange (imageBlock source space base).start.offset
        (imageBlock source space base).length = true ↔
      EndsInside space base source.bytes.length := by
  have positive := (held.inMemory nonempty).length_pos
  have atBase := baseAddress_toNat inside
  simp only [AddressSpace.containsRange, imageBlock, atBase, (held.inMemory nonempty).size_toNat,
    EndsInside, decide_eq_true_eq]
  omega

/-- An empty memory takes the image in if it ends inside the space. -/
theorem add_imageBlock (held : source.Held) (nonempty : source.bytes ≠ [])
    (inside : base ≤ space.maxOffset.toNat)
    (ends : EndsInside space base source.bytes.length) :
    Memory.empty.add space (imageBlock source space base) =
      .ok ⟨[imageBlock source space base]⟩ := by
  have heldBytes : ∀ data, (imageBlock source space base).contents = .bytes data →
      data.length = source.size.toNat := by
    intro data contents
    obtain rfl := BlockContents.bytes.inj contents
    exact (held.inMemory nonempty).size_toNat.symm
  exact Memory.add_eq_ok_iff.mpr ⟨⟨(held.inMemory nonempty).size_ne_zero,
    (containsRange_imageBlock held nonempty inside).mpr ends, heldBytes,
    fun _ member => absurd member List.not_mem_nil,
    fun _ member => absurd member List.not_mem_nil⟩, rfl⟩

/-- A program without functions marks any entry. -/
theorem markFunction_of_empty (noRefusal : program.refusal? = none)
    (empty : program.state.functions = .empty) (name : Option String) (entry : Address) :
    program.markFunction name entry = (.ok (), program.changedTo { program.state with
      functions := ⟨.insert .empty entry (entryFunction name entry)⟩ } ["functions"]) := by
  have noFunctions : program.functions = .empty := empty
  have uncovered : ¬ program.functions.CoversAt entry := by
    rintro ⟨function, member, -⟩
    rw [noFunctions] at member
    exact absurd member List.not_mem_nil
  have wellFormed : program.functions.WellFormed := noFunctions ▸ FunctionTable.wellFormed_empty
  rw [markFunction_of_not_coversAt noRefusal wellFormed uncovered, noFunctions]
  rfl

/-- What is left of the mapping once the image is in place. -/
def markEntry (space : AddressSpace) (base : Nat) (options : List LoadOption)
    (messages : List String) : Attempt Program (List String) := do
  if wantsEntry options then
    Attempt.of fun program => program.markFunction (some "entry") (baseAddress space base)
  return messages

theorem markEntry_apply (noRefusal : program.refusal? = none)
    (noFunctions : program.state.functions = .empty) (messages : List String) :
    ∃ notes, (markEntry space base options messages).apply program =
      (.ok messages, program.changedTo
        { program.state with functions := entryTable space base options } notes) := by
  by_cases wanted : wantsEntry options = true
  · refine ⟨["functions"], ?_⟩
    rw [markEntry, if_pos wanted, Attempt.apply_bind, Attempt.apply_of,
      markFunction_of_empty noRefusal noFunctions, entryTable, if_pos wanted]
    rfl
  · refine ⟨[], ?_⟩
    rw [markEntry, if_neg wanted, entryTable, if_neg wanted, ← noFunctions, changedTo_state]
    rfl

/-- A new program takes the image in if it ends inside the space. -/
theorem mapSource_of_inside (options : List LoadOption) (held : source.Held)
    (inside : base ≤ space.maxOffset.toNat)
    (ends : EndsInside space base source.bytes.length) (noRefusal : program.refusal? = none)
    (declared : program.space? space.name = some space)
    (noMemory : program.state.memory = .empty) (noFunctions : program.state.functions = .empty) :
    ∃ messages notes,
      (mapSource source space (baseAddress space base) options).apply program =
        (.ok messages, program.changedTo { program.state with
          memory := imageMemory source space base
          functions := entryTable space base options } notes) := by
  by_cases nothing : source.isEmpty = true
  · let messages := ["Source is empty; no bytes were loaded"]
    obtain ⟨notes, marked⟩ := @markEntry_apply space base options _ noRefusal noFunctions messages
    refine ⟨messages, notes, ?_⟩
    simp only [mapSource, nothing, if_true, Attempt.apply_bind, Attempt.apply_pure, imageMemory,
      ← noMemory]
    exact marked
  · have nonempty : source.bytes ≠ [] := mt held.isEmpty_iff.mpr nothing
    let block := imageBlock source space base
    have added : program.addMemoryBlock space block =
        .ok (program.changedTo { program.state with memory := ⟨[block]⟩ } ["memory"]) := by
      rw [addMemoryBlock_of_declared declared noRefusal, memory, noMemory,
        add_imageBlock held nonempty inside ends]
      rfl
    have built : sourceBlock (program.blockName false space "") (baseAddress space base) source =
        .ok block := by
      simp [sourceBlock, (held.inMemory nonempty).read_all, blockName, block, imageBlock]
    have ready : (program.changedTo { program.state with memory := ⟨[block]⟩ }
        ["memory"]).refusal? = none := by
      rw [refusal?_changedTo, noRefusal]
    obtain ⟨notes, marked⟩ := @markEntry_apply space base options _ ready noFunctions []
    refine ⟨[], "memory" :: notes, ?_⟩
    rw [changedTo_changedTo] at marked
    simp only [mapSource, if_neg nothing, imageMemory, Attempt.apply_bind, Attempt.apply_get,
      Attempt.ofExcept, Attempt.apply_of, Attempt.apply_ofChange, Attempt.apply_pure, built, added]
    exact marked

/-- An image that ends outside of the space is refused, and leaves nothing behind. -/
theorem mapSource_of_outside (options : List LoadOption) (held : source.Held)
    (inside : base ≤ space.maxOffset.toNat)
    (outside : ¬ EndsInside space base source.bytes.length) (noRefusal : program.refusal? = none)
    (declared : program.space? space.name = some space) :
    ∃ reason, (mapSource source space (baseAddress space base) options).apply program =
      (.error (.addressOverflow reason), program) := by
  have nonempty : source.bytes ≠ [] := by
    intro empty
    exact outside (.inl (by simp [empty]))
  have nothing : ¬ source.isEmpty = true := mt held.isEmpty_iff.mp nonempty
  let block := imageBlock source space base
  have beyond := Bool.eq_false_iff.mpr (mt (containsRange_imageBlock held nonempty inside).mp outside)
  obtain ⟨reason, refused⟩ := @Memory.add_of_not_inRange program.memory block space
    (held.inMemory nonempty).size_ne_zero beyond
  have unadded : program.addMemoryBlock space block = .error (.addressOverflow reason) := by
    rw [addMemoryBlock_of_declared declared noRefusal, refused]
  have built : sourceBlock (program.blockName false space "") (baseAddress space base) source =
      .ok block := by
    simp [sourceBlock, (held.inMemory nonempty).read_all, blockName, block, imageBlock]
  refine ⟨reason, ?_⟩
  simp only [mapSource, if_neg nothing, Attempt.apply_bind, Attempt.apply_get, Attempt.ofExcept,
    Attempt.apply_of, Attempt.apply_ofChange, built, unadded]

end Mapping

/-! ## The program of an image -/

/-- What becomes of a source at a base: a program of the consumer, with no transaction open, in which
each byte is read at its offset of the space, in the one block that contains it. -/
structure Extracted (request : LoadRequest) (space : AddressSpace) (base : Nat)
    (program : Program) : Prop where
  owned : program.consumers = [request.consumer]
  isOpen : program.isClosed = false
  idle : program.transaction = none
  imageBase_eq : program.state.imageBase = some (baseAddress space base)
  reads : ∀ i byte, request.source.bytes[i]? = some byte →
    ∀ address : Address, address.space = space.name → address.offset.toNat = base + i →
      ∃ block, (program.memory.blocks.filter fun block => block.contains address) = [block] ∧
        block.byteAt? address = some byte
  marked : wantsEntry request.options = true →
    ∃ function, program.functions.functionAt? (baseAddress space base) = some function

section Extraction

variable {request : LoadRequest} {space : AddressSpace} {base : Nat} {program : Program}

/-- In a well-formed memory, the one block that covers an offset is the one that contains its
addresses. -/
theorem contains_of_blocksAt {memory : Memory} {block : MemoryBlock} {address : Address}
    (wellFormed : memory.WellFormed)
    (alone : memory.blocksAt address.space address.offset.toNat = [block]) :
    (memory.blocks.filter fun block => block.contains address) = [block] := by
  rw [← alone, Memory.blocksAt]
  apply List.filter_congr
  intro block member
  have same := (wellFormed.sound block member).contains_iff address
  rw [Bool.eq_iff_iff, same, decide_eq_true_eq]

/-- An image stands in its memory, byte by byte. -/
theorem holds_imageMemory {source : ByteSource} (held : source.Held)
    (inside : base ≤ space.maxOffset.toNat)
    (ends : EndsInside space base source.bytes.length) :
    (imageMemory source space base).WellFormed ∧
      (imageMemory source space base).Holds space.name base source.bytes := by
  unfold imageMemory
  by_cases nothing : source.isEmpty = true
  · rw [if_pos nothing, held.isEmpty_iff.mp nothing]
    exact ⟨Memory.wellFormed_empty, Memory.holds_nil _ _ _⟩
  · have nonempty : source.bytes ≠ [] := mt held.isEmpty_iff.mpr nothing
    have added := add_imageBlock held nonempty inside ends
    have accepted := (Memory.add_eq_ok_iff.mp added).1
    have own := Memory.holds_insertBlock accepted.sound rfl (accepted.apart Memory.wellFormed_empty)
    have atBase : (imageBlock source space base).start.offset.toNat = base :=
      baseAddress_toNat inside
    rw [atBase] at own
    rw [if_neg nothing]
    exact ⟨Memory.wellFormed_empty.add added, own⟩

/-- The default space is found under its own name. -/
theorem findSpace?_name {spaces : List AddressSpace} {name : String}
    (found : findSpace? spaces name = some space) : findSpace? spaces space.name = some space := by
  have named : space.name = name := by simpa using List.find?_some found
  rw [named, found]

/-- A program that is new but for its properties and its image base. -/
structure Blank (request : LoadRequest) (program : Program) : Prop where
  language_eq : program.language = request.spec.language
  spaces_eq : program.state.spaces = request.spec.language.spaces
  noMemory : program.state.memory = .empty
  noFunctions : program.state.functions = .empty
  isOpen : program.isClosed = false
  idle : program.transaction = none

theorem Blank.declared (blank : Blank request program)
    (declared : request.spec.language.defaultSpace? = some space) :
    program.space? space.name = some space := by
  rw [space?, blank.spaces_eq]
  exact findSpace?_name declared

/-- The filling of a new program with an image that ends inside the space. -/
theorem Blank.populate_of_inside (blank : Blank request program) (held : request.source.Held)
    (declared : request.spec.language.defaultSpace? = some space)
    (inside : base ≤ space.maxOffset.toNat)
    (ends : EndsInside space base request.source.bytes.length) :
    ∃ messages memory spaces nextTransaction deliveries,
      (populate request.source base.toUInt64 request.options).apply program =
        (.ok messages, { program with
          state := { program.state with
            memory, spaces, functions := entryTable space base request.options }
          nextTransaction, deliveries }) ∧
      memory.WellFormed ∧ memory.Holds space.name base request.source.bytes := by
  obtain ⟨imageMessages, notes, ran⟩ := mapSource_of_inside request.options held inside ends
    (refusal?_begun blank.isOpen "Load raw binary") (blank.declared declared) blank.noMemory
    blank.noFunctions
  obtain ⟨told, kept, -⟩ := withTransaction_of_changedTo blank.isOpen blank.idle ran
  obtain ⟨imageWellFormed, imageHolds⟩ := holds_imageMemory held inside ends
  let imaged := { program with
    state := { program.state with
      memory := imageMemory request.source space base
      functions := entryTable space base request.options }
    nextTransaction := program.nextTransaction + 1
    deliveries := told }
  have mapped : (withTransaction "Load raw binary" (mapSource request.source space
      (baseAddress space base) request.options)).apply program = (.ok imageMessages, imaged) := kept
  have imagedOpen : imaged.isClosed = false := blank.isOpen
  obtain ⟨blockMessages, memory, spaces, nextTransaction, deliveries, furnished, wellFormed,
      stillHolds⟩ :=
    createDefaultBlocks_of_idle imagedOpen blank.idle imageWellFormed program.language
  refine ⟨imageMessages ++ blockMessages, memory, spaces, nextTransaction, deliveries, ?_,
    wellFormed, stillHolds _ _ _ imageHolds⟩
  have known : program.language.defaultSpace? = some space := by rw [blank.language_eq, declared]
  simp only [populate, Attempt.apply_bind, Attempt.apply_get, known, inSpace_of_le inside, mapped,
    furnished, Attempt.apply_pure]
  rfl

/-- An image that ends outside of the space is refused. -/
theorem Blank.populate_of_outside (blank : Blank request program) (held : request.source.Held)
    (declared : request.spec.language.defaultSpace? = some space)
    (inside : base ≤ space.maxOffset.toNat)
    (outside : ¬ EndsInside space base request.source.bytes.length) :
    ∃ reason, ((populate request.source base.toUInt64 request.options).apply program).1 =
      .error (.addressOverflow reason) := by
  obtain ⟨reason, ran⟩ := mapSource_of_outside request.options held inside outside
    (refusal?_begun blank.isOpen "Load raw binary") (blank.declared declared)
  rw [← (program.begun "Load raw binary").changedTo_state] at ran
  obtain ⟨told, undone, -⟩ := withTransaction_of_changedTo blank.isOpen blank.idle ran
  have known : program.language.defaultSpace? = some space := by rw [blank.language_eq, declared]
  refine ⟨reason, ?_⟩
  simp only [populate, Attempt.apply_bind, Attempt.apply_get, known, inSpace_of_le inside, undone]

/-- A base past the end of the space is refused. -/
theorem Blank.populate_of_beyond (blank : Blank request program)
    (declared : request.spec.language.defaultSpace? = some space)
    (asks : Asks request.options base) (beyond : space.maxOffset.toNat < base) :
    ∃ reason, ((populate request.source base.toUInt64 request.options).apply program).1 =
      .error (.invalidAddress reason) := by
  have known : program.language.defaultSpace? = some space := by rw [blank.language_eq, declared]
  obtain ⟨reason, refused⟩ := inSpace_of_lt asks beyond
  refine ⟨reason, ?_⟩
  simp only [populate, Attempt.apply_bind, Attempt.apply_get, known, refused, Attempt.apply_throw]

/-! ## The loader -/

/-- The MD5 of a source in memory, which a locator may have brought along. -/
def md5Text (source : ByteSource) : String :=
  (source.locator.bind Locator.md5).getD (Digest.Md5.scheme.hexDigest source.bytes)

theorem md5Of_held {source : ByteSource} (held : source.Held) (opened : Nat) :
    md5Of source opened = .ok (md5Text source) := by
  unfold md5Of md5Text
  cases source.locator.bind Locator.md5 with
  | some md5 => rfl
  | none => exact held.hexDigest_eq _ _

/-- The program of the request before it is filled. -/
def blankProgram (request : LoadRequest) (base : Nat) : Program :=
  created request.source request.name (imageBase? request.spec.language base.toUInt64)
    request.spec.language request.spec.compiler request.consumer
    (identity request.source (some formatName) (md5Text request.source)
      (Digest.Sha256.scheme.hexDigest request.source.bytes) request.createdAt)

theorem blank_blankProgram (request : LoadRequest) (base : Nat) :
    Blank request (blankProgram request base) :=
  ⟨rfl, rfl, rfl, rfl, rfl, rfl⟩

theorem consumers_blankProgram (request : LoadRequest) (base : Nat) :
    (blankProgram request base).consumers = [request.consumer] := rfl

/-- The image base of the new program is where the image is going to stand. -/
theorem imageBase_blankProgram (declared : request.spec.language.defaultSpace? = some space)
    (inside : base ≤ space.maxOffset.toNat) :
    (blankProgram request base).state.imageBase = some (baseAddress space base) := by
  let start := make (request.source.programName request.name) request.spec.language
    request.spec.compiler request.consumer
  have found : imageBase? request.spec.language base.toUInt64 = some (baseAddress space base) := by
    simp only [imageBase?, declared, inSpace_of_le inside]
  have ownSpace : start.defaultSpace? = some space := declared
  have accepted : start.acceptsImageBase (some (baseAddress space base)) = true := by
    simp [acceptsImageBase, ownSpace, baseAddress, Address.isSegmented]
  show start.acceptedBase? (imageBase? request.spec.language base.toUInt64) = _
  rw [found, acceptedBase?, if_pos accepted]

variable {κ σ : Type} {surroundings : Surroundings σ}

/-- Of a source in memory, a program is made. -/
theorem create_blankProgram (held : request.source.Held) (base opened : Nat) :
    ∃ streams, (create request.source request.name
        (imageBase? request.spec.language base.toUInt64) (some formatName) request.spec.language
        request.spec.compiler request.consumer request.createdAt).apply opened =
      (.ok (blankProgram request base), streams) := by
  have sha256Known := held.hexDigest_eq Digest.Sha256.scheme (opened + md5Streams request.source)
  exact ⟨_, create_eq_ok _ _ _ _ (md5Of_held held opened) sha256Known⟩

/-- What is left of an extraction, once the base is known, is the filling of the new program. -/
theorem extract_of_populate (held : request.source.Held)
    (uncancelled : surroundings.monitor.check.1 = .ok ()) (asks : Asks request.options base)
    (folder : Option κ) :
    let filled := (populate request.source base.toUInt64 request.options).apply
      (blankProgram request base)
    ((extract request folder).apply surroundings).1 =
      filled.1.map fun _ => [⟨filled.2, folder⟩] := by
  intro filled
  obtain ⟨streams, made⟩ := create_blankProgram held base surroundings.streamsOpened
  have polled : Surroundings.checkCancelled.apply surroundings =
      (.ok (), { surroundings with monitor := surroundings.monitor.check.2 }) := by
    simp [Surroundings.checkCancelled, uncancelled]
  simp only [extract, Attempt.apply_bind, polled, Attempt.ofExcept, Attempt.apply_of,
    baseOffset_of_asks asks, Surroundings.streaming, Attempt.apply_onPart, made]
  simp only [filled]
  generalize (populate request.source base.toUInt64 request.options).apply
    (blankProgram request base) = done
  obtain ⟨result, populated⟩ := done
  cases result <;> rfl

/-- A value that is no base ends an extraction before a program is made. -/
theorem extract_of_refused (uncancelled : surroundings.monitor.check.1 = .ok ()) {failure : Failure}
    (refused : baseOffset request.options = .error failure) (folder : Option κ) :
    ((extract request folder).apply surroundings).1 = .error failure := by
  have polled : Surroundings.checkCancelled.apply surroundings =
      (.ok (), { surroundings with monitor := surroundings.monitor.check.2 }) := by
    simp [Surroundings.checkCancelled, uncancelled]
  simp only [extract, Attempt.apply_bind, polled, Attempt.ofExcept, Attempt.apply_of, refused]

/-- The program of an image that ends inside the space. -/
theorem extract_of_inside (held : request.source.Held)
    (declared : request.spec.language.defaultSpace? = some space)
    (uncancelled : surroundings.monitor.check.1 = .ok ()) (asks : Asks request.options base)
    (inside : base ≤ space.maxOffset.toNat)
    (ends : EndsInside space base request.source.bytes.length) (folder : Option κ) :
    ∃ program, ((extract request folder).apply surroundings).1 = .ok [⟨program, folder⟩] ∧
      Extracted request space base program := by
  obtain ⟨messages, memory, spaces, nextTransaction, deliveries, filled, wellFormed, holds⟩ :=
    (blank_blankProgram request base).populate_of_inside held declared inside ends
  have extracted := extract_of_populate held uncancelled asks folder
  simp only [filled] at extracted
  have blank := blank_blankProgram request base
  refine ⟨_, extracted, ⟨consumers_blankProgram request base, blank.isOpen, blank.idle,
    imageBase_blankProgram declared inside, ?_, ?_⟩⟩
  · intro i byte found address onSpace atOffset
    obtain ⟨block, alone, answers⟩ := holds i byte found
    refine ⟨block, ?_, answers address onSpace atOffset⟩
    apply contains_of_blocksAt wellFormed
    rw [onSpace, atOffset]
    exact alone
  · intro wanted
    refine ⟨entryFunction (some "entry") (baseAddress space base), ?_⟩
    show (entryTable space base request.options).functionAt? (baseAddress space base) = _
    rw [entryTable, if_pos wanted, FunctionTable.functionAt?, SortedMap.get?_insert, if_pos rfl]

/-- For every source in memory, every declared default space and all options, the extraction fails
exactly where the options ask for no base, or the base or the end of the image lies past the space,
each with an error of its own. Else it gives one program, in which the image stands at the base,
whatever default blocks the language has. -/
theorem extract_places_the_image (held : request.source.Held)
    (declared : request.spec.language.defaultSpace? = some space)
    (uncancelled : surroundings.monitor.check.1 = .ok ()) (folder : Option κ) :
    let length := request.source.bytes.length
    let result := ((extract request folder).apply surroundings).1
    ((∃ candidates, result = .ok candidates) ↔ ∃ base, Asks request.options base ∧
      base ≤ space.maxOffset.toNat ∧ EndsInside space base length) ∧
    (∀ option, (request.options.find? fun option => option.name == baseAddressName) =
        some option → (∀ value, option.value = .int value → value.toInt < 0) →
      ∃ reason, result = .error (.invalidOption reason)) ∧
    ∀ base, Asks request.options base →
      (space.maxOffset.toNat < base → ∃ reason, result = .error (.invalidAddress reason)) ∧
      (base ≤ space.maxOffset.toNat → ¬ EndsInside space base length →
        ∃ reason, result = .error (.addressOverflow reason)) ∧
      (base ≤ space.maxOffset.toNat → EndsInside space base length →
        ∃ program, result = .ok [⟨program, folder⟩] ∧ Extracted request space base program) := by
  intro length result
  have refused : ∀ option, (request.options.find? fun option => option.name == baseAddressName) =
      some option → (∀ value, option.value = .int value → value.toInt < 0) →
      ∃ reason, result = .error (.invalidOption reason) := by
    intro option found noBase
    obtain ⟨reason, failed⟩ := baseOffset_of_refused found noBase
    exact ⟨reason, extract_of_refused uncancelled failed folder⟩
  have placed : ∀ base, Asks request.options base →
      (space.maxOffset.toNat < base → ∃ reason, result = .error (.invalidAddress reason)) ∧
      (base ≤ space.maxOffset.toNat → ¬ EndsInside space base length →
        ∃ reason, result = .error (.addressOverflow reason)) ∧
      (base ≤ space.maxOffset.toNat → EndsInside space base length →
        ∃ program, result = .ok [⟨program, folder⟩] ∧ Extracted request space base program) := by
    intro base asks
    have extracted := extract_of_populate held uncancelled asks folder
    have blank := blank_blankProgram request base
    refine ⟨fun beyond => ?_, fun inside outside => ?_, fun inside ends => ?_⟩
    · obtain ⟨reason, failed⟩ := blank.populate_of_beyond declared asks beyond
      refine ⟨reason, ?_⟩
      simp only [result, extracted, failed]
      rfl
    · obtain ⟨reason, failed⟩ := blank.populate_of_outside held declared inside outside
      refine ⟨reason, ?_⟩
      simp only [result, extracted, failed]
      rfl
    · exact extract_of_inside held declared uncancelled asks inside ends folder
  refine ⟨⟨?_, ?_⟩, refused, placed⟩
  · rintro ⟨candidates, success⟩
    have failing {failure : Failure} (failed : result = .error failure) : False := by
      rw [failed] at success
      contradiction
    obtain ⟨base, asks⟩ | ⟨option, found, noBase⟩ := asks_or_refused request.options
    · obtain ⟨beyond, outside, -⟩ := placed base asks
      have inside : base ≤ space.maxOffset.toNat := by
        by_contra past
        obtain ⟨reason, failed⟩ := beyond (not_le.mp past)
        exact failing failed
      refine ⟨base, asks, inside, ?_⟩
      by_contra past
      obtain ⟨reason, failed⟩ := outside inside past
      exact failing failed
    · obtain ⟨reason, failed⟩ := refused option found noBase
      exact (failing failed).elim
  · rintro ⟨base, asks, inside, ends⟩
    obtain ⟨program, success, -⟩ := (placed base asks).2.2 inside ends
    exact ⟨_, success⟩

/-- An image that ends at the last offset of its space, in a language whose default blocks overlap
it, take its name, or lie in another space under its offsets. -/
theorem image_fills_the_end_of_the_space :
    let ram : AddressSpace := ⟨"ram", .ram, 8, none⟩
    let io : AddressSpace := ⟨"io", .ram, 8, none⟩
    let language : Language :=
      { Language.make "target" ram with
        spaces := [ram, io]
        blocks := [.make "over" "0xfe" 4, .make "ram" "0x0" 4, .make "ports" "io:0xfd" 2] }
    let request : LoadRequest :=
      ⟨.ofBytes [7, 8, 9], "image", ⟨language, "default", true⟩,
        [⟨baseAddressName, .int 0xfd, .int, none⟩, .boolean entryFunctionName true "-entry"], ⟨1⟩,
        "now"⟩
    let surroundings : Surroundings Unit := ⟨0, .empty, .make (some 1), ()⟩
    request.source.Held ∧ language.defaultSpace? = some ram ∧
      surroundings.monitor.check.1 = .ok () ∧ wantsEntry request.options = true ∧
      ∃ program, ((extract request (none : Option Unit)).apply surroundings).1 =
          .ok [⟨program, none⟩] ∧ Extracted request ram 0xfd program := by
  intro ram io language request surroundings
  have held : request.source.Held := ⟨rfl, by decide, fun _ _ => rfl⟩
  have asks : Asks request.options 0xfd := ⟨0xfd, rfl, rfl⟩
  have inside : 0xfd ≤ ram.maxOffset.toNat := by decide
  have ends : EndsInside ram 0xfd request.source.bytes.length := .inr (by decide)
  have declared : request.spec.language.defaultSpace? = some ram := by decide
  have uncancelled : surroundings.monitor.check.1 = .ok () := rfl
  have outcomes := extract_places_the_image held declared uncancelled (none : Option Unit)
  exact ⟨held, declared, uncancelled, by decide, (outcomes.2.2 0xfd asks).2.2 inside ends⟩

end Extraction

end BinaryLoader

end ImageImport
