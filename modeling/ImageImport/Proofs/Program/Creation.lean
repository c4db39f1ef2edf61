import ImageImport.Load.Identity
import ImageImport.Proofs.Program.Bracket

/-!
Contract: the program that a source makes, to the last field.

What is recorded of a source is a list of properties, and recording them one after another in a
transaction gives the map of the list. Where the digests succeed, nothing in the making of a program
can fail.

Owns: the properties and the image base of a new program, and the count of opened streams.
Does not own: which digests succeed.
-/

namespace ImageImport.Program

/-! ## Properties in a transaction -/

/-- The program with more properties, and a note for each of them. -/
def withProperties (program : Program) (entries : List (String × String)) : Program :=
  program.changedTo
    { program.state with
      properties := entries.foldl (fun map entry => map.insert entry.1 entry.2)
        program.state.properties }
    (entries.map fun _ => "properties")

theorem withProperties_nil (program : Program) : program.withProperties [] = program :=
  program.changedTo_state

theorem withProperties_append (program : Program) (earlier later : List (String × String)) :
    program.withProperties (earlier ++ later) =
      (program.withProperties earlier).withProperties later := by
  rw [withProperties, List.foldl_append, List.map_append, ← changedTo_changedTo]
  rfl

@[simp] theorem refusal?_withProperties (program : Program) (entries : List (String × String)) :
    (program.withProperties entries).refusal? = program.refusal? :=
  refusal?_changedTo _ _ _

section Recording

variable {program : Program} {source : ByteSource} {format : Option String}
  {createdAt md5 sha256 : String} {opened : Nat} {base : Option Address}

/-- One more property is recorded behind those before it. -/
theorem recordProperty_apply {ω : Type} (noRefusal : program.refusal? = none)
    (entries : List (String × String)) (key value : String) (beside : ω) :
    (recordProperty key value).apply (program.withProperties entries, beside) =
      (.ok (), program.withProperties (entries ++ [(key, value)]), beside) := by
  have ready : (program.withProperties entries).refusal? = none := by
    rw [refusal?_withProperties, noRefusal]
  have changed : (program.withProperties entries).setProperty key value =
      .ok ((program.withProperties entries).withProperties [(key, value)]) := by
    rw [setProperty, changeState, writable, ready]
    rfl
  simp [recordProperty, changing, Attempt.apply_ofChange, changed, withProperties_append]

/-! ## The identity of a source -/

/-- How many streams the MD5 of a source takes: none where the locator brings it along. -/
def md5Streams (source : ByteSource) : Nat :=
  if (source.locator.bind Locator.md5).isSome then 0 else 1

/-- The MD5 of the locator, or else that of a stream. -/
def md5Of (source : ByteSource) (opened : Nat) : Except Failure String :=
  match source.locator.bind Locator.md5 with
  | some md5 => .ok md5
  | none => source.hexDigest Digest.Md5.scheme opened

/-- The locator as it is recorded, with an MD5 in any case. -/
def recordedLocator (locator : Locator) (md5 : String) : Locator :=
  if locator.md5.isNone then locator.withMd5 md5 else locator

/-- What is recorded of a source with these digests, in the order in which it is recorded. -/
def identity (source : ByteSource) (format : Option String) (md5 sha256 createdAt : String) :
    List (String × String) :=
  (source.path.map fun path => (Property.path, path)).toList ++
    (format.map fun format => (Property.format, format)).toList ++
    (source.locator.map fun locator =>
      (Property.locator, (recordedLocator locator md5).text)).toList ++
    [(Property.md5, md5), (Property.sha256, sha256), (Property.created, createdAt)]

/-- What is recorded of a source before its SHA-256 is taken. -/
def knownIdentity (source : ByteSource) (format : Option String) (md5 : String) :
    List (String × String) :=
  (source.path.map fun path => (Property.path, path)).toList ++
    (format.map fun format => (Property.format, format)).toList ++
    (source.locator.map fun locator =>
      (Property.locator, (recordedLocator locator md5).text)).toList ++ [(Property.md5, md5)]

/-- Where the MD5 succeeds, it is recorded behind whatever else is known of the source, and what is
left to do is to take the SHA-256. -/
theorem recordIdentity_of_md5 (noRefusal : program.refusal? = none)
    (md5Known : md5Of source opened = .ok md5) :
    (recordIdentity source format createdAt).apply (program, opened) =
      (do
        let sha256 ← digesting source Digest.Sha256.scheme
        recordProperty Property.sha256 sha256
        recordProperty Property.created createdAt : Attempt (Program × Nat) Unit).apply
      (program.withProperties (knownIdentity source format md5), opened + md5Streams source) := by
  have records (entries key value) (opened : Nat) :=
    recordProperty_apply noRefusal entries key value opened
  suffices recorded : (recordIdentity source format createdAt).apply
      (program.withProperties [], opened) = _ by
    rwa [withProperties_nil] at recorded
  unfold recordIdentity knownIdentity
  unfold md5Of md5Streams at *
  -- Of the three things that a source may lack, each changes which steps there are.
  cases source.path <;> cases format <;> cases located : source.locator with
  | none =>
      simp [located] at md5Known
      simp [Attempt.apply_bind, records, digesting, md5Known]
  | some locator =>
      cases carried : locator.md5 with
      | none =>
          simp [located, carried] at md5Known
          simp [Attempt.apply_bind, records, digesting, carried, recordedLocator, md5Known]
      | some own =>
          simp [located, carried] at md5Known
          simp [Attempt.apply_bind, records, carried, recordedLocator, md5Known]

/-- Where its digests succeed, all of an identity is recorded. -/
theorem recordIdentity_apply (noRefusal : program.refusal? = none)
    (md5Known : md5Of source opened = .ok md5)
    (sha256Known : source.hexDigest Digest.Sha256.scheme (opened + md5Streams source) =
      .ok sha256) :
    (recordIdentity source format createdAt).apply (program, opened) =
      (.ok (), program.withProperties (identity source format md5 sha256 createdAt),
        opened + md5Streams source + 1) := by
  have records (entries key value) (opened : Nat) :=
    recordProperty_apply noRefusal entries key value opened
  rw [recordIdentity_of_md5 noRefusal md5Known]
  simp [Attempt.apply_bind, digesting, sha256Known, records, identity, knownIdentity]

/-! ## The image base -/

/-- The image base that applies, of one that is asked for. -/
def acceptedBase? (program : Program) (base : Option Address) : Option Address :=
  if program.acceptsImageBase base then base else none

/-- An image base that applies lies in a space of the program. -/
theorem space?_of_acceptsImageBase {base : Address}
    (accepts : program.acceptsImageBase (some base) = true) :
    (program.space? base.space).isSome = true := by
  unfold acceptsImageBase at accepts
  cases declared : program.defaultSpace? with
  | none => simp [declared] at accepts
  | some space =>
      simp only [declared, Bool.and_eq_true, beq_iff_eq] at accepts
      have member : space ∈ program.state.spaces := List.mem_of_find?_eq_some declared
      exact List.find?_isSome.mpr ⟨space, member, by simp [accepts.1.2]⟩

/-- The program with another image base, and a note of it. -/
def withImageBase (program : Program) (base : Address) : Program :=
  program.changedTo { program.state with imageBase := some base } ["image base"]

theorem setImageBase_of_accepts {base : Address} (noRefusal : program.refusal? = none)
    (accepts : program.acceptsImageBase (some base) = true) :
    program.setImageBase base = .ok (program.withImageBase base) := by
  have declared : (program.space? base.space).isNone = false :=
    Option.isNone_eq_false_iff.mpr (space?_of_acceptsImageBase accepts)
  simp only [setImageBase, declared, changeState, writable, noRefusal]
  rfl

/-- The program with these properties, and with the image base if it applies. -/
def withOrigin (program : Program) (entries : List (String × String)) (base : Option Address) :
    Program :=
  match program.acceptedBase? base with
  | none => program.withProperties entries
  | some base => (program.withProperties entries).withImageBase base

/-- Where the digests of a source succeed, its origin is recorded. -/
theorem recordOrigin_apply (noRefusal : program.refusal? = none)
    (md5Known : md5Of source opened = .ok md5)
    (sha256Known : source.hexDigest Digest.Sha256.scheme (opened + md5Streams source) =
      .ok sha256) :
    (recordOrigin source base format createdAt).apply (program, opened) =
      (.ok (), program.withOrigin (identity source format md5 sha256 createdAt) base,
        opened + md5Streams source + 1) := by
  have identified := @recordIdentity_apply program source format createdAt _ _ _ noRefusal md5Known
    sha256Known
  generalize identity source format md5 sha256 createdAt = entries at identified ⊢
  simp only [recordOrigin, Attempt.apply_bind, identified, Attempt.apply_get, withOrigin,
    acceptedBase?]
  cases base with
  | none => simp
  | some base =>
      have sameAcceptance : (program.withProperties entries).acceptsImageBase (some base) =
          program.acceptsImageBase (some base) := rfl
      simp only [sameAcceptance]
      by_cases accepts : program.acceptsImageBase (some base) = true
      · have ready : (program.withProperties entries).refusal? = none := by
          rw [refusal?_withProperties, noRefusal]
        have based := setImageBase_of_accepts ready (sameAcceptance.trans accepts)
        simp [accepts, changing, Attempt.apply_ofChange, based]
      · simp [accepts]

/-! ## The making of a program -/

/-- A new program with these properties, and with the image base if it applies. Its listeners hear
of nothing yet. -/
def created (source : ByteSource) (fallbackName : String) (base : Option Address)
    (language : Language) (compiler : String) (consumer : Consumer)
    (entries : List (String × String)) : Program :=
  let start := make (source.programName fallbackName) language compiler consumer
  { start with
    state := { start.state with
      properties := .ofList entries
      imageBase := start.acceptedBase? base }
    nextTransaction := 2
    eventsEnabled := false }

/-- An origin changes nothing but the properties and the image base. -/
theorem withOrigin_eq (program : Program) (entries : List (String × String))
    (base : Option Address) :
    ∃ notes, program.withOrigin entries base = program.changedTo
      { program.state with
        properties := entries.foldl (fun map entry => map.insert entry.1 entry.2)
          program.state.properties
        imageBase := (program.acceptedBase? base).or program.state.imageBase } notes := by
  unfold withOrigin
  cases program.acceptedBase? base with
  | none => exact ⟨_, rfl⟩
  | some base => exact ⟨_, changedTo_changedTo _ _ _ _ _⟩

/-- A new program behind its shut gate, in the transaction in which its origin is recorded. -/
def unrecorded (source : ByteSource) (fallbackName : String) (language : Language)
    (compiler : String) (consumer : Consumer) : Program :=
  { make (source.programName fallbackName) language compiler consumer with
    eventsEnabled := false }.begun "Set program properties"

/-- The transaction commits in any case, and whether there is a program hangs on nothing but the
recording. -/
theorem create_of_recordOrigin {fallbackName : String} {language : Language} {compiler : String}
    {consumer : Consumer} {result : Except Failure Unit} {state : ProgramState}
    {notes : List String} {next : Nat}
    (ran : (recordOrigin source base format createdAt).apply
      (unrecorded source fallbackName language compiler consumer, opened) =
      (result, (unrecorded source fallbackName language compiler consumer).changedTo state notes,
        next)) :
    (create source fallbackName base format language compiler consumer createdAt).apply opened =
      (result.map fun _ => { make (source.programName fallbackName) language compiler consumer with
        state, nextTransaction := 2, eventsEnabled := false }, next) := by
  let shut := { make (source.programName fallbackName) language compiler consumer with
    eventsEnabled := false }
  let description := "Set program properties"
  have bracketed (body : Program → (Except Failure Unit × Nat) × Program)
      (ranBody : body (shut.begun description) =
        ((result, next), (shut.begun description).changedTo state notes)) :
      shut.bracket description body (fun _ => true) =
        .ok ((result, next), .ok (), { shut with state, nextTransaction := 2 }) := by
    have isOpen : shut.isClosed = false := rfl
    obtain ⟨deliveries, bracketed, unheard⟩ :=
      bracket_of_changedTo isOpen rfl (fun _ => true) ranBody
    rw [bracketed, unheard rfl]
    rfl
  have ranHere : (recordOrigin source base format createdAt).apply
      (shut.begun description, opened) = _ := ran
  simp only [create, Attempt.apply_of, setEventsEnabled_false]
  rw [bracketed]
  · cases result <;> rfl
  · simp only [ranHere]
    rfl

/-- Where the digests of a source succeed, so does the making of its program. -/
theorem create_eq_ok (fallbackName : String) (language : Language) (compiler : String)
    (consumer : Consumer) (md5Known : md5Of source opened = .ok md5)
    (sha256Known : source.hexDigest Digest.Sha256.scheme (opened + md5Streams source) =
      .ok sha256) :
    (create source fallbackName base format language compiler consumer createdAt).apply opened =
      (.ok (created source fallbackName base language compiler consumer
        (identity source format md5 sha256 createdAt)), opened + md5Streams source + 1) := by
  let start := unrecorded source fallbackName language compiler consumer
  have recorded := @recordOrigin_apply start source format createdAt _ _ _ base
    (refusal?_begun rfl _) md5Known sha256Known
  obtain ⟨notes, changed⟩ :=
    start.withOrigin_eq (identity source format md5 sha256 createdAt) base
  have unbased : start.state.imageBase = none := rfl
  rw [changed, unbased, Option.or_none] at recorded
  exact create_of_recordOrigin recorded

end Recording

end ImageImport.Program
