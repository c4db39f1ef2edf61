import ImageImport.Program.Change
import ImageImport.Proofs.Address.Written

/-!
Contract: where the block of a definition goes.

A definition names an address, and its block goes there; or, when it is to have a space of its own,
to the same offset of an overlay over the space of that address. The overlay is named like the block,
and the program must not have a space of that name yet. Either way the program may be without a place
for the block, and says why.

Owns: `Place`, with the spaces that the program has afterwards, and `Displaced`.
Does not own: whether the memory takes the block in there.
-/

namespace ImageImport

theorem AddressSpace.eq_of_make {name : String} {kind : SpaceKind} {bits : UInt8}
    {base : Option String} {space : AddressSpace} (made : make name kind bits base = .ok space) :
    space = ⟨name, kind, bits, base⟩ := by
  unfold make at made
  split at made
  · contradiction
  · split at made
    · contradiction
    · split at made
      · contradiction
      · exact (Except.ok.inj made).symm

namespace Program

/-- The overlay that a definition describes, over a space. -/
def overlayOver (definition : BlockDefinition) (under : AddressSpace) : AddressSpace :=
  ⟨definition.name, .overlay, under.bits, some under.name⟩

/-- The start of the block in its overlay, over the written address. -/
def overlayStart (definition : BlockDefinition) (under : AddressSpace) (written : Address) :
    Address :=
  ⟨definition.name, .overlay, written.offset, under.bits, none⟩

/-- The definition asks for an overlay, and this is the space that it is to lie over. -/
structure Overlies (language : Language) (spaces : List AddressSpace)
    (definition : BlockDefinition) (under : AddressSpace) (written : Address) : Prop where
  overlaid : definition.isOverlay = true
  read : language.parseAddress definition.address = .ok written
  declared : findSpace? spaces written.space = some under

/-- The space and the start of the block of a definition, and the spaces that there are with it: the
declared ones, and for an overlay this one behind them. -/
inductive Place (language : Language) (spaces : List AddressSpace)
    (definition : BlockDefinition) : AddressSpace → Address → List AddressSpace → Prop where
  | inSpace {space : AddressSpace} {start : Address}
      (plain : definition.isOverlay = false)
      (read : language.parseAddress definition.address = .ok start)
      (declared : findSpace? spaces start.space = some space) :
      Place language spaces definition space start spaces
  | inOverlay {under : AddressSpace} {written : Address}
      (overlies : Overlies language spaces definition under written)
      (fresh : findSpace? spaces definition.name = none)
      (made : overlaySpace definition under = .ok (overlayOver definition under))
      (inside : Address.inSpace (overlayOver definition under) written.offset =
        .ok (overlayStart definition under written)) :
      Place language spaces definition (overlayOver definition under)
        (overlayStart definition under written) (spaces ++ [overlayOver definition under])

/-- Why there is no place for the block of a definition. -/
inductive Displaced (language : Language) (spaces : List AddressSpace)
    (definition : BlockDefinition) : Failure → Prop where
  | unread {failure : Failure}
      (unread : language.parseAddress definition.address = .error failure) :
      Displaced language spaces definition failure
  | undeclared {written : Address}
      (read : language.parseAddress definition.address = .ok written)
      (missing : findSpace? spaces written.space = none) :
      Displaced language spaces definition (.invalidAddress definition.address)
  | taken {under : AddressSpace} {written : Address}
      (overlies : Overlies language spaces definition under written)
      (known : (findSpace? spaces definition.name).isSome = true) :
      Displaced language spaces definition
        (.memoryConflict ("address space '" ++ definition.name ++ "' already exists"))
  | unmade {under : AddressSpace} {written : Address} {reason : String}
      (overlies : Overlies language spaces definition under written)
      (fresh : findSpace? spaces definition.name = none)
      (unmade : overlaySpace definition under = .error (.invalidAddress reason)) :
      Displaced language spaces definition (.invalidAddress reason)
  | outside {under : AddressSpace} {written : Address} {reason : String}
      (overlies : Overlies language spaces definition under written)
      (fresh : findSpace? spaces definition.name = none)
      (made : overlaySpace definition under = .ok (overlayOver definition under))
      (outside : Address.inSpace (overlayOver definition under) written.offset = .error reason) :
      Displaced language spaces definition (.invalidAddress reason)

section

variable {language : Language} {spaces later : List AddressSpace} {definition : BlockDefinition}
  {space : AddressSpace} {start : Address}

/-- The start of a block names the space of the block. -/
theorem Place.space_eq (place : Place language spaces definition space start later) :
    start.space = space.name := by
  cases place with
  | inSpace _ _ declared =>
      have named : space.name = start.space := by simpa using List.find?_some declared
      exact named.symm
  | inOverlay => rfl

/-- The space of a block is the one that is declared under its name, or an overlay to come. -/
theorem Place.known_or_new (place : Place language spaces definition space start later) :
    (findSpace? spaces space.name = some space ∧ later = spaces) ∨
      (findSpace? spaces space.name = none ∧ space.isOverlay = true ∧
        later = spaces ++ [space]) := by
  cases place with
  | inSpace plain read declared =>
      have named : start.space = space.name := (Place.inSpace plain read declared).space_eq
      exact .inl ⟨named ▸ declared, rfl⟩
  | inOverlay _ fresh => exact .inr ⟨fresh, rfl, rfl⟩

theorem overlaySpace_cases (definition : BlockDefinition) (under : AddressSpace) :
    overlaySpace definition under = .ok (overlayOver definition under) ∨
      ∃ reason, overlaySpace definition under = .error (.invalidAddress reason) := by
  unfold overlaySpace
  cases made : AddressSpace.make definition.name .overlay under.bits (some under.name) with
  | ok overlay => exact .inl (by rw [AddressSpace.eq_of_make made, overlayOver])
  | error reason => exact .inr ⟨reason, rfl⟩

end

section

variable {program : Program} {definition : BlockDefinition}

/-- An overlay is refused for its name, for being no space, or for being too narrow. -/
theorem Overlies.placeOf_cases {under : AddressSpace} {written : Address}
    (overlies : Overlies program.language program.state.spaces definition under written) :
    (∃ space start spaces,
      Place program.language program.state.spaces definition space start spaces ∧
      program.placeOf definition = .ok (space, start)) ∨
    ∃ failure, Displaced program.language program.state.spaces definition failure ∧
      program.placeOf definition = .error failure := by
  have ⟨overlaid, read, declared⟩ := overlies
  cases known : findSpace? program.state.spaces definition.name with
  | some other =>
      refine .inr ⟨_, .taken overlies (by rw [known, Option.isSome_some]), ?_⟩
      simp [placeOf, read, space?, declared, overlaid, known, bind, Except.bind]
  | none =>
      rcases overlaySpace_cases definition under with made | ⟨reason, unmade⟩
      · cases inside : Address.inSpace (overlayOver definition under) written.offset with
        | error reason =>
            refine .inr ⟨_, .outside overlies known made inside, ?_⟩
            simp [placeOf, read, space?, declared, overlaid, known, made, inside, bind,
              Except.bind]
        | ok start =>
            obtain rfl : start = overlayStart definition under written :=
              (Address.inSpace_eq_ok_iff.mp inside).2
            refine .inl ⟨_, _, _, .inOverlay overlies known made inside, ?_⟩
            simp [placeOf, read, space?, declared, overlaid, known, made, inside, bind,
              Except.bind]
      · refine .inr ⟨_, .unmade overlies known unmade, ?_⟩
        simp [placeOf, read, space?, declared, overlaid, known, unmade, bind, Except.bind]

/-- A definition has a place in a program, or the program says why it has none. -/
theorem placeOf_cases (program : Program) (definition : BlockDefinition) :
    (∃ space start spaces,
      Place program.language program.state.spaces definition space start spaces ∧
      program.placeOf definition = .ok (space, start)) ∨
    ∃ failure, Displaced program.language program.state.spaces definition failure ∧
      program.placeOf definition = .error failure := by
  cases read : program.language.parseAddress definition.address with
  | error failure => exact .inr ⟨_, .unread read, by simp [placeOf, read, bind, Except.bind]⟩
  | ok written =>
      cases declared : findSpace? program.state.spaces written.space with
      | none =>
          refine .inr ⟨_, .undeclared read declared, ?_⟩
          simp [placeOf, read, space?, declared, bind, Except.bind]
      | some under =>
          cases overlaid : definition.isOverlay with
          | false =>
              refine .inl ⟨under, written, _, .inSpace overlaid read declared, ?_⟩
              simp [placeOf, read, space?, declared, overlaid, bind, Except.bind]
          | true => exact Overlies.placeOf_cases ⟨overlaid, read, declared⟩

/-- What a program gives as the place of a block is the place of the block. -/
theorem exists_place_of_placeOf {space : AddressSpace} {start : Address}
    (placed : program.placeOf definition = .ok (space, start)) :
    ∃ spaces, Place program.language program.state.spaces definition space start spaces := by
  rcases placeOf_cases program definition with
    ⟨space', start', spaces, place, placed'⟩ | ⟨failure, -, unplaced⟩
  · obtain ⟨rfl, rfl⟩ := Prod.mk.inj (Except.ok.inj (placed'.symm.trans placed))
    exact ⟨spaces, place⟩
  · exact absurd (unplaced.symm.trans placed) (by simp)

end

end Program

end ImageImport
