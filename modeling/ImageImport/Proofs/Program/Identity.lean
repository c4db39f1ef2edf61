import ImageImport.Proofs.Digest.Stream
import ImageImport.Proofs.Locator.RoundTrip
import ImageImport.Proofs.Program.Creation
import ImageImport.Proofs.Table.Order

/-!
Contract: when a source makes a program, and what the program tells of its source.

The SHA-256 of a source takes a stream, and so does its MD5, before it, unless the locator brings one
along. Nothing else in the making of a program can fail. What is recorded is one property for each
thing known of the source, each under a key of its own; and the locator is recorded with the MD5 that
is recorded too, so that the two agree.

Owns: the streams that a program takes, and the identity that it gets from them.
Does not own: what becomes of a program that is not made, which nobody has.
-/

namespace ImageImport

namespace ByteSource

variable {Chain : Type} {source : ByteSource} {scheme : Digest.Scheme Chain} {number : Nat}

/-- The stream of this number, counted from zero, can be opened, and it can be read to its end, which
hands out these bytes. Interruptions do not count. -/
def Delivers (source : ByteSource) (number : Nat) (bytes : List UInt8) : Prop :=
  ∃ reader, source.openStream number 0 = .ok reader ∧
    ReadOutcome.drain (reader Digest.defaultBufferSize) = .ok bytes

/-- What a stream hands out to its end are the bytes of the source, though some streams may fail. -/
def Faithful (source : ByteSource) : Prop :=
  ∀ number bytes, source.Delivers number bytes → bytes = source.bytes

/-- A digest is that of the bytes which its stream hands out. -/
theorem hexDigest_eq_ok_iff {digest : String} :
    source.hexDigest scheme number = .ok digest ↔
      ∃ bytes, source.Delivers number bytes ∧ digest = scheme.hexDigest bytes := by
  unfold hexDigest Delivers
  cases source.openStream number 0 with
  | error fault => simp
  | ok reader =>
      have buffer : max Digest.defaultBufferSize 1 = Digest.defaultBufferSize := rfl
      simp only [scheme.hexDigestOfReader_eq, buffer]
      cases drained : ReadOutcome.drain (reader Digest.defaultBufferSize) with
      | error fault => simp [Except.map, drained]
      | ok bytes => simp [Except.map, drained, eq_comm]

end ByteSource

namespace Digest

/-- The digits of a digest are decimal ones and letters of lower case, so a locator can carry it. -/
theorem writableDigest_hexBytes {bytes : List UInt8} (nonempty : bytes ≠ []) :
    Locator.WritableDigest (Text.hexBytes bytes) := by
  have plain : ∀ value < 16, Text.digit value ≠ '&' ∧
      ¬ ('A' ≤ Text.digit value ∧ Text.digit value ≤ 'Z') := by decide
  constructor
  · obtain ⟨byte, rest, rfl⟩ := List.exists_cons_of_ne_nil nonempty
    simp [Text.hexBytes]
  · intro c member
    rw [Text.hexBytes, String.toList_ofList, List.mem_flatMap] at member
    obtain ⟨byte, -, isDigit⟩ := member
    have small := byte.toNat_lt
    rcases List.mem_cons.mp isDigit with rfl | isLow
    · exact plain _ (by omega)
    · rw [List.mem_singleton.mp isLow]
      exact plain _ (by omega)

theorem writableDigest_md5 (bytes : List UInt8) :
    Locator.WritableDigest (Md5.scheme.hexDigest bytes) :=
  writableDigest_hexBytes (List.cons_ne_nil _ _)

end Digest

namespace Program

variable {source : ByteSource} {format : Option String} {createdAt md5 sha256 : String}
  {opened : Nat} {failure : Failure}

/-! ## Streams that fail -/

section Failures

variable {program : Program}

/-- Where the MD5 fails, only the path and the format are recorded. -/
theorem recordIdentity_of_md5_failure (format : Option String) (createdAt : String)
    (noRefusal : program.refusal? = none)
    (failed : md5Of source opened = .error failure) :
    ∃ entries, (recordIdentity source format createdAt).apply (program, opened) =
      (.error failure, program.withProperties entries, opened + md5Streams source) := by
  have records (entries key value) (opened : Nat) :=
    recordProperty_apply noRefusal entries key value opened
  refine ⟨(source.path.map fun path => (Property.path, path)).toList ++
    (format.map fun format => (Property.format, format)).toList, ?_⟩
  suffices recorded : (recordIdentity source format createdAt).apply
      (program.withProperties [], opened) = _ by
    rwa [withProperties_nil] at recorded
  unfold recordIdentity
  unfold md5Of at failed
  unfold md5Streams
  cases known : source.locator.bind Locator.md5 with
  | some own => simp [known] at failed
  | none =>
      simp [known] at failed
      cases source.path <;> cases format <;>
        simp [Attempt.apply_bind, records, digesting, failed]

theorem recordIdentity_of_sha256_failure (format : Option String) (createdAt : String)
    (noRefusal : program.refusal? = none)
    (md5Known : md5Of source opened = .ok md5)
    (failed : source.hexDigest Digest.Sha256.scheme (opened + md5Streams source) =
      .error failure) :
    ∃ entries, (recordIdentity source format createdAt).apply (program, opened) =
      (.error failure, program.withProperties entries, opened + md5Streams source + 1) := by
  refine ⟨knownIdentity source format md5, ?_⟩
  rw [recordIdentity_of_md5 noRefusal md5Known]
  simp [Attempt.apply_bind, digesting, failed]

end Failures

section Making

variable {fallbackName : String} {base : Option Address} {language : Language}
  {compiler : String} {consumer : Consumer} {program : Program}

/-- A digest that fails is what the making of the program fails with. -/
theorem create_of_failure {entries : List (String × String)} {next : Nat}
    (ran : (recordIdentity source format createdAt).apply
      (unrecorded source fallbackName language compiler consumer, opened) =
      (.error failure,
        (unrecorded source fallbackName language compiler consumer).withProperties entries,
        next)) :
    (create source fallbackName base format language compiler consumer createdAt).apply opened =
      (.error failure, next) := by
  let start := unrecorded source fallbackName language compiler consumer
  have failed : (recordOrigin source base format createdAt).apply (start, opened) =
      (.error failure, start.withProperties entries, next) := by
    rw [recordOrigin, Attempt.apply_bind, ran]
  exact create_of_recordOrigin failed

/-! ## The digests that a program needs -/

/-- These are the MD5 and the SHA-256 that a program of the source gets, if so many streams were
opened before. -/
structure Digested (source : ByteSource) (opened : Nat) (md5 sha256 : String) : Prop where
  carried : ∀ own, source.locator.bind Locator.md5 = some own → md5 = own
  streamed : source.locator.bind Locator.md5 = none →
    ∃ bytes, source.Delivers opened bytes ∧ md5 = Digest.Md5.scheme.hexDigest bytes
  whole : ∃ bytes, source.Delivers (opened + md5Streams source) bytes ∧
    sha256 = Digest.Sha256.scheme.hexDigest bytes

/-- The SHA-256 is that of all bytes of the source, and so is the MD5 unless the locator brings
one. -/
structure DigestsAllBytes (source : ByteSource) (md5 sha256 : String) : Prop where
  md5_eq : md5 = (source.locator.bind Locator.md5).getD (Digest.Md5.scheme.hexDigest source.bytes)
  sha256_eq : sha256 = Digest.Sha256.scheme.hexDigest source.bytes

theorem Digested.digestsAllBytes (digested : Digested source opened md5 sha256)
    (faithful : source.Faithful) : DigestsAllBytes source md5 sha256 := by
  constructor
  case md5_eq =>
    cases carried : source.locator.bind Locator.md5 with
    | some own => exact digested.carried own carried
    | none =>
        obtain ⟨bytes, delivers, rfl⟩ := digested.streamed carried
        rw [faithful _ _ delivers]
        rfl
  case sha256_eq =>
    obtain ⟨bytes, delivers, rfl⟩ := digested.whole
    rw [faithful _ _ delivers]

/-- There are digests where the streams that they need can be read to their ends. -/
theorem exists_digested
    (streamed : source.locator.bind Locator.md5 = none → ∃ bytes, source.Delivers opened bytes)
    (whole : ∃ bytes, source.Delivers (opened + md5Streams source) bytes) :
    ∃ md5 sha256, Digested source opened md5 sha256 := by
  obtain ⟨all, deliversAll⟩ := whole
  cases carried : source.locator.bind Locator.md5 with
  | some own => exact ⟨own, _, by simp [carried], by simp [carried], all, deliversAll, rfl⟩
  | none =>
      obtain ⟨bytes, delivers⟩ := streamed carried
      exact ⟨_, _, by simp [carried], fun _ => ⟨bytes, delivers, rfl⟩, all, deliversAll, rfl⟩

theorem digested_iff : Digested source opened md5 sha256 ↔
    md5Of source opened = .ok md5 ∧
      source.hexDigest Digest.Sha256.scheme (opened + md5Streams source) = .ok sha256 := by
  rw [ByteSource.hexDigest_eq_ok_iff]
  unfold md5Of
  cases carried : source.locator.bind Locator.md5 with
  | none =>
      rw [ByteSource.hexDigest_eq_ok_iff]
      constructor
      · intro digested
        exact ⟨digested.streamed carried, digested.whole⟩
      · intro ⟨streamed, whole⟩
        exact ⟨by simp [carried], fun _ => streamed, whole⟩
  | some own =>
      constructor
      · intro digested
        exact ⟨congrArg Except.ok (digested.carried own carried).symm, digested.whole⟩
      · intro ⟨same, whole⟩
        obtain rfl := Except.ok.inj same
        exact ⟨by simp [carried], by simp [carried], whole⟩

/-- A program is made of the source exactly if its digests can be taken, and in no other way. -/
theorem create_eq_ok_iff {next : Nat} :
    (create source fallbackName base format language compiler consumer createdAt).apply opened =
        (.ok program, next) ↔
      next = opened + md5Streams source + 1 ∧
        ∃ md5 sha256, Digested source opened md5 sha256 ∧
          program = created source fallbackName base language compiler consumer
            (identity source format md5 sha256 createdAt) := by
  simp only [digested_iff]
  have noRefusal : (unrecorded source fallbackName language compiler consumer).refusal? = none :=
    refusal?_begun rfl _
  cases md5Known : md5Of source opened with
  | error failure =>
      obtain ⟨entries, ran⟩ := recordIdentity_of_md5_failure format createdAt
        noRefusal md5Known
      simp [create_of_failure ran]
  | ok md5 =>
      cases sha256Known : source.hexDigest Digest.Sha256.scheme (opened + md5Streams source) with
      | error failure =>
          obtain ⟨entries, ran⟩ := recordIdentity_of_sha256_failure format createdAt
            noRefusal md5Known sha256Known
          simp [create_of_failure ran]
      | ok sha256 =>
          simp [create_eq_ok _ _ _ _ md5Known sha256Known, eq_comm, and_comm]

/-! ## What a new program tells -/

/-- The address is an image base that applies in a language: it is flat, and its space has the name
and the kind of the default space. -/
def IsDefaultBase (language : Language) (address : Address) : Prop :=
  address.segment = none ∧ ∃ space, language.defaultSpace? = some space ∧
    space.name = address.space ∧ space.kind = address.kind

/-- What a new program tells of the source that it was made of, under these digests. -/
structure Identifies (source : ByteSource) (fallbackName : String) (base : Option Address)
    (language : Language) (consumer : Consumer) (md5 sha256 : String) (program : Program) :
    Prop where
  name_eq : program.name = (source.locator.map Locator.name).getD fallbackName
  md5_eq : program.property? Property.md5 = some md5
  sha256_eq : program.property? Property.sha256 = some sha256
  located : (program.property? Property.locator).isSome = source.locator.isSome
  /-- The locator is read back with the MD5 that the program tells. -/
  locator_read : ∀ locator, source.locator = some locator → locator.Writable →
    ∃ written, program.property? Property.locator = some written ∧
      Locator.parse written = .ok { locator with md5 := some md5 }
  imageBase_iff : ∀ address, program.state.imageBase = some address ↔
    base = some address ∧ IsDefaultBase language address
  consumers_eq : program.consumers = [consumer]
  isOpen : program.isClosed = false
  idle : program.transaction = none
  shut : program.eventsEnabled = false

/-- The digests stand behind all else that is known of the source, and no key stands twice. -/
theorem lookup_identity :
    let entries := (identity source format md5 sha256 createdAt).reverse
    List.lookup Property.md5 entries = some md5 ∧
      List.lookup Property.sha256 entries = some sha256 ∧
      List.lookup Property.locator entries =
        source.locator.map fun locator => (recordedLocator locator md5).text := by
  unfold identity Property.md5 Property.sha256 Property.locator Property.created
  refine ⟨by simp [List.lookup_cons], by simp [List.lookup_cons], ?_⟩
  cases source.locator with
  | some locator => simp [List.lookup_cons]
  | none =>
      unfold Property.format Property.path
      cases source.path <;> cases format <;> simp [List.lookup_cons]

/-- With the MD5 that is recorded beside it, a locator differs from that of the source in its MD5
alone. -/
theorem recordedLocator_eq {locator : Locator} (digested : Digested source opened md5 sha256)
    (located : source.locator = some locator) :
    recordedLocator locator md5 = { locator with md5 := some md5 } := by
  cases carried : locator.md5 with
  | none =>
      obtain ⟨bytes, -, rfl⟩ := digested.streamed (by simp [located, carried])
      simp [recordedLocator, carried, Locator.withMd5, (Digest.writableDigest_md5 bytes).lowered]
  | some own =>
      obtain rfl := digested.carried own (by simp [located, carried])
      cases locator
      simp_all [recordedLocator]

/-- The recorded MD5 is one that a written locator gives back. -/
theorem writable_recorded {locator : Locator} (digested : Digested source opened md5 sha256)
    (located : source.locator = some locator) (writable : locator.Writable) :
    Locator.Writable { locator with md5 := some md5 } := by
  refine ⟨writable.1, fun digest isMd5 => ?_, writable.2.2⟩
  obtain rfl := Option.some.inj isMd5
  cases carried : locator.md5 with
  | none =>
      obtain ⟨bytes, -, rfl⟩ := digested.streamed (by simp [located, carried])
      exact Digest.writableDigest_md5 bytes
  | some own =>
      obtain rfl := digested.carried own (by simp [located, carried])
      exact writable.2.1 _ carried

theorem acceptsImageBase_make_iff (name : String) (address : Address) :
    (make name language compiler consumer).acceptsImageBase (some address) = true ↔
      IsDefaultBase language address := by
  have ownSpace : (make name language compiler consumer).defaultSpace? = language.defaultSpace? :=
    rfl
  unfold acceptsImageBase IsDefaultBase
  rw [ownSpace]
  cases language.defaultSpace? <;> simp [Address.isSegmented, and_assoc]

theorem acceptedBase?_make_eq_some_iff (name : String) (address : Address) :
    (make name language compiler consumer).acceptedBase? base = some address ↔
      base = some address ∧ IsDefaultBase language address := by
  rw [← acceptsImageBase_make_iff name]
  unfold acceptedBase?
  constructor
  · intro applies
    split_ifs at applies with accepts
    rw [applies] at accepts
    exact ⟨applies, accepts⟩
  · rintro ⟨rfl, accepts⟩
    exact if_pos accepts

/-- What a new program tells is right: the digests are those that were taken, and the rest agrees
with them and with the source. -/
theorem Digested.identifies (digested : Digested source opened md5 sha256) :
    Identifies source fallbackName base language consumer md5 sha256
      (created source fallbackName base language compiler consumer
        (identity source format md5 sha256 createdAt)) := by
  let entries := identity source format md5 sha256 createdAt
  let program := created source fallbackName base language compiler consumer entries
  have recorded (key : String) : program.property? key = List.lookup key entries.reverse :=
    SortedMap.get?_ofList entries key
  have found := @lookup_identity source format createdAt md5 sha256
  constructor
  case name_eq =>
    show source.programName fallbackName = _
    unfold ByteSource.programName
    cases source.locator <;> rfl
  case md5_eq => rw [recorded, found.1]
  case sha256_eq => rw [recorded, found.2.1]
  case located => rw [recorded, found.2.2, Option.isSome_map]
  case locator_read =>
    intro locator located writable
    refine ⟨(recordedLocator locator md5).text, ?_, ?_⟩
    · rw [recorded, found.2.2, located]
      rfl
    · rw [recordedLocator_eq digested located, Locator.parse_eq_ok_iff]
      exact (writable_recorded digested located writable).read?_text
  case imageBase_iff => exact acceptedBase?_make_eq_some_iff _
  case consumers_eq => rfl
  case isOpen => rfl
  case idle => rfl
  case shut => rfl

/-- A program is made of a source exactly if the streams that its digests need can be read to their
ends, and then those were opened and no other. What it tells of the source is right; and the digests
are those of the bytes of the source if what streams hand out to their ends is. -/
theorem create_records_its_source (source : ByteSource) (fallbackName : String)
    (base : Option Address) (format : Option String) (language : Language) (compiler : String)
    (consumer : Consumer) (createdAt : String) (opened : Nat) :
    let outcome :=
      (create source fallbackName base format language compiler consumer createdAt).apply opened
    ((∃ program, outcome.1 = .ok program) ↔
        (source.locator.bind Locator.md5 = none → ∃ bytes, source.Delivers opened bytes) ∧
          ∃ bytes, source.Delivers (opened + md5Streams source) bytes) ∧
      ∀ program, outcome.1 = .ok program →
        outcome.2 = opened + md5Streams source + 1 ∧
          ∃ md5 sha256, Digested source opened md5 sha256 ∧
            (source.Faithful → DigestsAllBytes source md5 sha256) ∧
            Identifies source fallbackName base language consumer md5 sha256 program := by
  intro outcome
  have made (program : Program) := @create_eq_ok_iff source format createdAt opened fallbackName
    base language compiler consumer program outcome.2
  have isOutcome (program : Program) (isOk : outcome.1 = .ok program) :
      outcome = (.ok program, outcome.2) := Prod.ext isOk rfl
  constructor
  · constructor
    · rintro ⟨program, isOk⟩
      obtain ⟨-, md5, sha256, digested, -⟩ := (made program).mp (isOutcome program isOk)
      refine ⟨fun uncarried => ?_, ?_⟩
      · obtain ⟨bytes, delivers, -⟩ := digested.streamed uncarried
        exact ⟨bytes, delivers⟩
      · obtain ⟨bytes, delivers, -⟩ := digested.whole
        exact ⟨bytes, delivers⟩
    · rintro ⟨streamed, whole⟩
      obtain ⟨md5, sha256, digested⟩ := exists_digested streamed whole
      exact ⟨_, congrArg Prod.fst (create_eq_ok_iff.mpr ⟨rfl, md5, sha256, digested, rfl⟩)⟩
  · intro program isOk
    obtain ⟨count, md5, sha256, digested, rfl⟩ := (made program).mp (isOutcome program isOk)
    exact ⟨count, md5, sha256, digested, digested.digestsAllBytes, digested.identifies⟩

/-- A source whose streams are interrupted, with a locator that brings no MD5: both digests are those
of all its bytes, and the image base is that of the request. -/
theorem interrupted_source_is_recorded :
    let space : AddressSpace := ⟨"ram", .ram, 16, none⟩
    let base : Address := ⟨"ram", .ram, 0x100, 16, none⟩
    let source : ByteSource :=
      { ByteSource.ofBytes [1, 2, 3] with
        locator := some (.ofPath "/fw/boot.bin")
        openStream := fun _ _ => .ok fun _ => [.bytes [1], .interrupted, .bytes [2, 3]] }
    let outcome := (create source "fallback" (some base) none (.make "tiny" space) "default" ⟨0⟩
      "today").apply 0
    outcome.2 = 2 ∧ ∃ program, outcome.1 = .ok program ∧ program.name = "boot.bin" ∧
      program.property? Property.md5 = some (Digest.Md5.scheme.hexDigest [1, 2, 3]) ∧
      program.property? Property.sha256 = some (Digest.Sha256.scheme.hexDigest [1, 2, 3]) ∧
      program.state.imageBase = some base := by
  intro space base source outcome
  have delivers (number : Nat) : source.Delivers number [1, 2, 3] := ⟨_, rfl, rfl⟩
  have faithful : source.Faithful := by
    rintro number bytes ⟨reader, isOpen, whole⟩
    obtain rfl := Except.ok.inj isOpen
    exact (Except.ok.inj whole).symm
  obtain ⟨made, told⟩ := create_records_its_source source "fallback" (some base) none
    (.make "tiny" space) "default" ⟨0⟩ "today" 0
  obtain ⟨program, isOk⟩ := made.mpr ⟨fun _ => ⟨_, delivers 0⟩, _, delivers 1⟩
  obtain ⟨count, md5, sha256, -, allBytes, identifies⟩ := told program isOk
  obtain ⟨rfl, rfl⟩ := allBytes faithful
  refine ⟨count, program, isOk, ?_, identifies.md5_eq, identifies.sha256_eq, ?_⟩
  · rw [identifies.name_eq]
    decide
  · exact (identifies.imageBase_iff base).mpr ⟨rfl, rfl, space, rfl, rfl, rfl⟩

end Making

end Program

end ImageImport
