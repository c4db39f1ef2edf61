import ImageImport.Proofs.Program.Housing

/-!
Contract: the spaces of a program beside the spaces that its language declares.

A space is only ever added, as the overlay that a block brings along, and only under a new name; a
rollback takes it away again together with everything that was set since. So the declared spaces
stay in front, a look-up of a declared name finds what the language has under it, and the image base
never names a space that is gone.

Owns: what is known of the spaces and of the image base after any calls.
Does not own: the blocks that lie in the spaces.
-/

namespace ImageImport.Program

/-- The declared spaces, and behind them overlays, each with a name that no other space has. -/
structure Extends (declared spaces : List AddressSpace) : Prop where
  begins : declared <+: spaces
  further : ∀ earlier space later, spaces = earlier ++ space :: later →
    declared.length ≤ earlier.length →
    space.kind = .overlay ∧ ∀ other ∈ earlier ++ later, other.name ≠ space.name

/-- The image base, where one is set, names a space of the program. -/
def BaseStands (state : ProgramState) : Prop :=
  ∀ base, state.imageBase = some base → (findSpace? state.spaces base.space).isSome = true

section

variable {declared spaces : List AddressSpace} {space : AddressSpace}

theorem Extends.refl (declared : List AddressSpace) : Extends declared declared := by
  refine ⟨List.prefix_refl declared, fun earlier space later split behind => ?_⟩
  have lengths := congrArg List.length split
  simp only [List.length_append, List.length_cons] at lengths
  omega

theorem findSpace?_eq_none_iff {name : String} :
    findSpace? spaces name = none ↔ ∀ other ∈ spaces, other.name ≠ name := by
  simp [findSpace?]

/-- An overlay under a new name may come behind all others. -/
theorem Extends.append (extended : Extends declared spaces) (overlay : space.isOverlay = true)
    (isNew : findSpace? spaces space.name = none) : Extends declared (spaces ++ [space]) := by
  have different := findSpace?_eq_none_iff.mp isNew
  refine ⟨extended.begins.trans (List.prefix_append _ _), ?_⟩
  intro earlier added later split behind
  rcases List.eq_nil_or_concat' later with rfl | ⟨before, last, rfl⟩
  · obtain ⟨rfl, rfl⟩ := List.append_singleton_inj.mp split
    refine ⟨by simpa [AddressSpace.isOverlay] using overlay, fun other member => ?_⟩
    exact different other (by simpa using member)
  · have regrouped : spaces ++ [space] = (earlier ++ added :: before) ++ [last] := by
      rw [split, List.append_assoc, List.cons_append]
    obtain ⟨within, rfl⟩ := List.append_singleton_inj.mp regrouped
    obtain ⟨kind, apart⟩ := extended.further earlier added before within behind
    refine ⟨kind, fun other member => ?_⟩
    rw [← List.append_assoc, List.mem_append, List.mem_singleton] at member
    rcases member with among | rfl
    · exact apart other among
    · exact (different added (by simp [within])).symm

theorem Extends.findSpace? (extended : Extends declared spaces) {name : String}
    (found : findSpace? declared name = some space) : findSpace? spaces name = some space := by
  obtain ⟨more, rfl⟩ := extended.begins
  exact findSpace?_append_of_found found more

end

/-- Of all changes, only the setting of an image base touches it, and it asks for the space first. -/
theorem Mutation.change_imageBase_cases (mutation : Mutation) {state next : ProgramState}
    (changed : mutation.change state = .ok next) :
    next.imageBase = state.imageBase ∨
      ∃ base, next.imageBase = some base ∧ (findSpace? state.spaces base.space).isSome = true := by
  cases changes_of_change changed with
  | setsImageBase known => exact .inr ⟨_, rfl, known⟩
  | _ => exact .inl rfl

/-- A change leaves the spaces, or puts an overlay of a new name behind them. -/
theorem Mutation.change_spaces_cases (mutation : Mutation) {state next : ProgramState}
    (changed : mutation.change state = .ok next) :
    next.spaces = state.spaces ∨
      ∃ space, space.isOverlay = true ∧ findSpace? state.spaces space.name = none ∧
        next.spaces = state.spaces ++ [space] := by
  rcases mutation.change_memory_cases changed with ⟨same, -⟩ |
    ⟨space, block, -, -, ⟨-, same⟩ | ⟨isNew, overlay, appended⟩⟩
  · exact .inl same
  · exact .inl same
  · exact .inr ⟨space, overlay, isNew, appended⟩

/-- What a change of a bare state keeps of its spaces and of its image base. -/
theorem Mutation.change_keeps_spaces {declared : List AddressSpace} (mutation : Mutation)
    (state next : ProgramState)
    (holds : Extends declared state.spaces ∧ BaseStands state)
    (changed : mutation.change state = .ok next) :
    Extends declared next.spaces ∧ BaseStands next := by
  obtain ⟨extended, baseStands⟩ := holds
  have spaces := mutation.change_spaces_cases changed
  have stillFound {name : String} (found : (findSpace? state.spaces name).isSome = true) :
      (findSpace? next.spaces name).isSome = true := by
    obtain ⟨space, known⟩ := Option.isSome_iff_exists.mp found
    rcases spaces with same | ⟨added, -, -, appended⟩
    · rw [same, known, Option.isSome_some]
    · rw [appended, findSpace?_append_of_found known, Option.isSome_some]
  constructor
  · rcases spaces with same | ⟨added, overlay, isNew, appended⟩
    · rw [same]
      exact extended
    · rw [appended]
      exact extended.append overlay isNew
  · intro base isBase
    rcases mutation.change_imageBase_cases changed with same | ⟨set, isSet, known⟩
    · exact stillFound (baseStands base (same ▸ isBase))
    · obtain rfl := Option.some.inj (isBase.symm.trans isSet)
      exact stillFound known

/-- Whatever calls are made on a new program, with rollbacks and closings among them: its spaces are
those of its language, in order, and behind them overlays of their own names; a declared name means
what it means in the language; and the image base names a space that the program has. -/
theorem spaces_of_run (name : String) (language : Language) (compiler : String)
    (consumer : Consumer) (operations : List Operation) :
    let program := (run operations (make name language compiler consumer)).2
    Extends language.spaces program.state.spaces ∧
    (∀ called space, language.space? called = some space →
      program.space? called = some space) ∧
    ∀ base, program.state.imageBase = some base →
      ∃ space, program.space? base.space = some space := by
  intro program
  have new : (make name language compiler consumer).Keeps fun state =>
      Extends language.spaces state.spaces ∧ BaseStands state :=
    keeps_of_idle ⟨Extends.refl language.spaces, nofun⟩ rfl
  obtain ⟨extended, baseStands⟩ :=
    (new.run Mutation.change_keeps_spaces operations).current
  refine ⟨extended, fun called space found => extended.findSpace? found, fun base isBase => ?_⟩
  exact Option.isSome_iff_exists.mp (baseStands base isBase)

/-- An overlay with the image base in it stays through the rollback, by a close, of another. -/
theorem overlay_and_base_outlive_a_rollback :
    let language := Language.make "target" ⟨"ram", .ram, 16, none⟩
    let bank : AddressSpace := ⟨"bank", .overlay, 16, some "ram"⟩
    let late : AddressSpace := ⟨"late", .overlay, 16, some "ram"⟩
    let base : Address := ⟨"bank", .overlay, 0x10, 16, none⟩
    let blockAt (space : AddressSpace) : MemoryBlock :=
      blockOf ⟨space.name, "0x0", 0x20, .ofFlags true true false, false, true, true⟩
        ⟨space.name, .overlay, 0, 16, none⟩
    let calls : List Operation :=
      [.start "first", .mutate (.addBlock bank (blockAt bank)), .mutate (.setImageBase base),
        .finish 1 true, .start "second", .mutate (.addBlock late (blockAt late)),
        .mutate (.setImageBase { base with space := "late" }), .release ⟨1⟩]
    let program := (run calls (make "image" language "default" ⟨1⟩)).2
    program.isClosed = true ∧ program.state.spaces = [⟨"ram", .ram, 16, none⟩, bank] ∧
      program.state.imageBase = some base ∧ ∃ space, program.space? base.space = some space := by
  intro language bank late base blockAt calls program
  have restored : program.state.imageBase = some base := by decide
  have kept := spaces_of_run "image" language "default" ⟨1⟩ calls
  exact ⟨by decide, by decide, restored, kept.2.2 base restored⟩

end ImageImport.Program
