import ImageImport.Proofs.Table.Order
import ImageImport.Proofs.Text.Pieces
import ImageImport.Store.FileTree

/-!
Contract: what stands under a name in a directory, in a tree that limits neither names nor paths.

A text that leads to a directory, joined with a name that is no step to elsewhere, leads to the
place of that name in the directory. What is asked of a file or a directory there is answered by the
entry of that place alone, and what is put there is seen at that place alone.

Owns: paths that are joined with one name, and the laws of files and directories at their places.
Does not own: links, several names at once, and names that are too long.
-/

namespace ImageImport

/-! ## The text of a path with one more name -/

namespace FilePath

/-- A name that leads from a directory to a place in it. -/
structure IsName (name : String) : Prop where
  nonempty : name ≠ ""
  notHere : name ≠ "."
  notBack : name ≠ ".."
  noSlash : '/' ∉ name.toList
  noNul : name.toList.any (·.toNat == 0) = false

/-- The path one name further. -/
def enter (path : FilePath) (name : String) : FilePath :=
  { path with names := path.names ++ [name], ending := .name }

/-- The names in a text, as a path has them. -/
def namesOf (text : List Char) : List String :=
  ((Text.split '/' text).map String.ofList).filter fun piece => piece ≠ "" ∧ piece ≠ "."

variable {text name : String} {front : List Char}

theorem namesOf_append {piece : List Char} (absent : '/' ∉ piece) :
    namesOf (front ++ '/' :: piece) = namesOf front ++ namesOf piece := by
  rw [namesOf, Text.split_append_last absent, List.map_append, List.filter_append]
  rw [namesOf, namesOf, Text.split_of_not_mem absent]

theorem IsName.namesOf_eq (isName : IsName name) : namesOf name.toList = [name] := by
  rw [namesOf, Text.split_of_not_mem isName.noSlash, List.map_singleton, String.ofList_toList]
  simp [isName.nonempty, isName.notHere]

theorem endingOf_concat (pieces : List String) (nonempty : name ≠ "") (notHere : name ≠ ".") :
    endingOf (pieces ++ [name]) = .name := by
  unfold endingOf
  rw [List.reverse_append, List.reverse_singleton, List.singleton_append]
  split
  · next same => exact absurd (List.cons.inj same).1 nonempty
  · next same => exact absurd (List.cons.inj same).1 notHere
  · rfl

theorem subset_join (directory path : String) : path.toList ⊆ (join directory path).toList := by
  unfold join
  split
  · exact List.Subset.refl _
  · split
    · rw [String.toList_append]
      exact List.subset_append_right _ _
    · rw [String.toList_append]
      exact List.subset_append_right _ _

/-- A joined text is what it was in front of the last slash, and the name behind it. -/
theorem exists_front_of_join (nonempty : text ≠ "") (isName : IsName name) :
    ∃ front, (join text name).toList = front ++ '/' :: name.toList ∧
      namesOf front = namesOf text.toList ∧ front ⊆ text.toList ∧
      (front ++ '/' :: name.toList).head? = text.toList.head? := by
  have noRoot : name.toList.head? ≠ some '/' :=
    fun starts => isName.noSlash (List.mem_of_head? starts)
  have someText : text.toList ≠ [] := mt String.toList_eq_nil_iff.mp nonempty
  unfold join
  rw [if_neg noRoot]
  -- A slash that the text ends in is the one in front of the name.
  by_cases slash : text.toList.getLast? = some '/'
  · rw [if_pos (.inr slash)]
    have whole : text.toList.dropLast ++ ['/'] = text.toList :=
      List.dropLast_append_getLast? '/' slash
    refine ⟨text.toList.dropLast, ?_, ?_, List.dropLast_subset _, ?_⟩
    · rw [String.toList_append]
      nth_rewrite 1 [← whole]
      simp
    · nth_rewrite 2 [← whole]
      rw [namesOf_append List.not_mem_nil]
      have nothing : namesOf [] = [] := by decide
      rw [nothing, List.append_nil]
    · nth_rewrite 2 [← whole]
      simp [List.head?_append]
  · rw [if_neg (by simp [nonempty, slash])]
    refine ⟨text.toList, by simp, rfl, List.Subset.refl _, ?_⟩
    rw [List.head?_append_of_ne_nil _ someText]

theorem ofText_join (nonempty : text ≠ "") (isName : IsName name) :
    ofText (join text name) = (ofText text).enter name := by
  obtain ⟨front, joined, sameNames, -, sameStart⟩ := exists_front_of_join nonempty isName
  have names : (ofText (join text name)).names = (ofText text).names ++ [name] := by
    show namesOf (join text name).toList = namesOf text.toList ++ [name]
    rw [joined, namesOf_append isName.noSlash, sameNames, isName.namesOf_eq]
  have ending : (ofText (join text name)).ending = .name := by
    show endingOf ((Text.split '/' (join text name).toList).map String.ofList) = .name
    rw [joined, Text.split_append_last isName.noSlash, List.map_append, List.map_singleton,
      String.ofList_toList]
    exact endingOf_concat _ isName.nonempty isName.notHere
  have absolute : (ofText (join text name)).isAbsolute = (ofText text).isAbsolute := by
    show decide ((join text name).toList.head? = some '/') = decide (text.toList.head? = some '/')
    rw [joined, sameStart]
  rw [FilePath.enter, ← names, ← ending, ← absolute]

end FilePath

namespace FileTree

open FilePath

variable {tree : FileTree} {text name : String} {path : FilePath} {place : List String}
  {entry : FileEntry}

/-! ## Where a joined text leads -/

theorem readPath_eq_ok_iff :
    readPath text = .ok path ↔
      text.toList.any (·.toNat == 0) = false ∧ text ≠ "" ∧ path = .ofText text := by
  unfold readPath
  split
  · next nul => exact iff_of_false nofun fun parts => by simp [nul] at parts
  · next noNul =>
      split
      · next empty => exact iff_of_false nofun fun parts => parts.2.1 empty
      · next nonempty =>
          rw [Except.ok.injEq, eq_comm]
          exact ⟨fun same => ⟨Bool.eq_false_iff.mpr noNul, nonempty, same⟩,
            fun parts => parts.2.2⟩

theorem readPath_join (read : readPath text = .ok path) (isName : IsName name) :
    readPath (join text name) = .ok (path.enter name) := by
  obtain ⟨noNul, nonempty, rfl⟩ := readPath_eq_ok_iff.mp read
  obtain ⟨front, joined, -, inText, -⟩ := exists_front_of_join nonempty isName
  refine readPath_eq_ok_iff.mpr ⟨?_, ?_, (ofText_join nonempty isName).symm⟩
  · have frontNoNul : front.any (·.toNat == 0) = false :=
      List.any_eq_false.mpr fun c member => List.any_eq_false.mp noNul c (inText member)
    rw [joined, List.any_append, List.any_cons, frontNoNul, isName.noNul]
    rfl
  · intro empty
    rw [empty] at joined
    simp at joined

/-- A tree that limits neither names nor paths. -/
structure Unlimited (tree : FileTree) : Prop where
  nameLimit_eq : tree.nameLimit = none
  pathLimit_eq : tree.pathLimit = none

theorem Unlimited.readShortPath_eq (unlimited : tree.Unlimited) (text : String) :
    tree.readShortPath text = readPath text := by
  unfold readShortPath
  rw [unlimited.pathLimit_eq]
  cases readPath text <;> rfl

/-- The path leads to a directory. -/
structure LeadsTo (tree : FileTree) (path : FilePath) (place : List String) : Prop where
  locate_eq : tree.locate path = .ok place
  entry_eq : tree.entry? place = some .directory

theorem LeadsTo.findDirectory_eq (leads : tree.LeadsTo path place) :
    tree.findDirectory path = .ok place := by
  have located : tree.locate { path with ending := .here } = .ok place := leads.locate_eq
  simp [findDirectory, find, located, leads.entry_eq, bind, Except.bind]

theorem follow_append (start : List String) (first second : List String) :
    tree.follow start (first ++ second) =
      tree.follow start first >>= fun next => tree.follow next second := by
  induction first generalizing start with
  | nil => rfl
  | cons name names inductionHypothesis =>
      rw [List.cons_append, follow, follow]
      cases tree.enter start name with
      | error fault => rfl
      | ok next => exact inductionHypothesis next

/-- One name more leads one place further. -/
theorem LeadsTo.locate_enter (unlimited : tree.Unlimited) (leads : tree.LeadsTo path place)
    (isName : IsName name) : tree.locate (path.enter name) = .ok (place ++ [name]) := by
  have entered : tree.enter place name = .ok (place ++ [name]) := by
    simp [enter, leads.entry_eq, isName.notBack, unlimited.nameLimit_eq, isOver]
  have located := leads.locate_eq
  unfold locate at located ⊢
  rw [FilePath.enter, follow_append, located]
  show tree.follow place [name] = _
  rw [follow, entered]
  rfl

theorem newName?_enter (path : FilePath) (isName : IsName name) :
    (path.enter name).newName? = some name := by
  simp only [newName?, FilePath.enter, List.getLast?_concat]
  rw [if_neg nofun]
  split
  · next same => exact absurd (Option.some.inj same) isName.notBack
  · rfl

theorem LeadsTo.outer_enter (leads : tree.LeadsTo path place) (name : String) :
    tree.LeadsTo (path.enter name).outer place := by
  refine ⟨?_, leads.entry_eq⟩
  rw [← leads.locate_eq]
  simp only [locate, outer, FilePath.enter, List.dropLast_concat]

section Rooms

variable (unlimited : tree.Unlimited) (leads : tree.LeadsTo path place) (isName : IsName name)

include unlimited leads isName

theorem LeadsTo.findRoom_eq :
    tree.findRoom (path.enter name) = .ok (some (place ++ [name])) := by
  simp [findRoom, newName?_enter path isName, (leads.outer_enter name).findDirectory_eq,
    leads.locate_enter unlimited isName, bind, Except.bind, pure, Except.pure]

theorem LeadsTo.findFileRoom_eq :
    tree.findFileRoom (path.enter name) =
      .ok (some (place ++ [name], tree.entry? (place ++ [name]))) := by
  have notSlash : ¬ ((path.enter name).ending = .slash ∧ (path.enter name).newName?.isSome) :=
    fun both => nomatch both.1
  rw [findFileRoom, if_neg notSlash, leads.findRoom_eq unlimited isName]
  rfl

theorem LeadsTo.makeDirectory_eq :
    tree.makeDirectory (path.enter name) =
      if (tree.entry? (place ++ [name])).isSome then .error .alreadyExists
      else .ok (tree.put (place ++ [name]) .directory) := by
  rw [makeDirectory, leads.findRoom_eq unlimited isName]
  rfl

theorem LeadsTo.find_eq :
    tree.find (path.enter name) =
      match tree.entry? (place ++ [name]) with
      | none => .error .notFound
      | some entry => .ok (place ++ [name], entry) := by
  rw [find, leads.locate_enter unlimited isName]
  simp only [bind, Except.bind]
  cases tree.entry? (place ++ [name]) with
  | none => rfl
  | some entry => cases entry <;> rfl

theorem LeadsTo.isDirectory_iff :
    tree.isDirectory (path.enter name) = true ↔
      tree.entry? (place ++ [name]) = some .directory := by
  have located : tree.locate { path.enter name with ending := .here } = .ok (place ++ [name]) :=
    leads.locate_enter unlimited isName
  simp only [isDirectory, findDirectory, find, located, bind, Except.bind]
  cases tree.entry? (place ++ [name]) with
  | none => simp
  | some entry => cases entry <;> simp

/-- The directories around the name are there, so that only the last one is made. -/
theorem LeadsTo.makeAround_eq :
    makeAround (path.enter name) (path.enter name).names.reverse tree =
      match tree.entry? (place ++ [name]) with
      | none => (.ok (), tree.put (place ++ [name]) .directory)
      | some .directory => (.ok (), tree)
      | some (.file _) => (.error .alreadyExists, tree) := by
  have reversed : (path.enter name).names.reverse = name :: path.names.reverse := by
    simp [FilePath.enter]
  have whole : { path.enter name with names := (name :: path.names.reverse).reverse } =
      path.enter name := by
    simp [FilePath.enter]
  have made := leads.makeDirectory_eq unlimited isName
  have isDirectory := leads.isDirectory_iff unlimited isName
  rw [reversed, makeAround]
  simp only [whole, made]
  cases there : tree.entry? (place ++ [name]) with
  | none => rfl
  | some entry =>
      rw [there] at isDirectory
      cases entry with
      | directory => simp [isDirectory]
      | file bytes => simp [isDirectory]

end Rooms

/-! ## Files and directories in a directory -/

/-- The text leads to a directory. -/
def Opens (tree : FileTree) (text : String) (place : List String) : Prop :=
  ∃ path, readPath text = .ok path ∧ tree.LeadsTo path place

/-- The names in a directory at a place. -/
def namesIn (tree : FileTree) (place : List String) : List String :=
  (tree.entries.keys.filter fun other => !other.isEmpty && other.dropLast == place).filterMap
    List.getLast?

/-- There is no file at a text that is no path. -/
theorem isFile_of_nul (nul : text.toList.any (·.toNat == 0) = true) : tree.isFile text = false := by
  have unread : tree.readShortPath text = .error .nulInName := by
    rw [readShortPath, readPath, if_pos nul]
    rfl
  rw [isFile, readFile, unread]
  rfl

section Entries

variable (unlimited : tree.Unlimited) (opens : tree.Opens text place)

include unlimited opens

theorem Opens.names_eq : tree.names text = tree.namesIn place := by
  obtain ⟨path, read, leads⟩ := opens
  have found : (tree.readShortPath text >>= tree.findDirectory) = .ok place := by
    rw [unlimited.readShortPath_eq, read]
    exact leads.findDirectory_eq
  rw [names, found, namesIn]

variable (isName : IsName name)

include isName

/-- A file is made where there is nothing, and nowhere else. -/
theorem Opens.createFile_eq (bytes : List UInt8) :
    tree.createFile (join text name) bytes =
      if (tree.entry? (place ++ [name])).isSome then .error .alreadyExists
      else .ok (tree.put (place ++ [name]) (.file bytes)) := by
  obtain ⟨path, read, leads⟩ := opens
  rw [createFile, unlimited.readShortPath_eq, readPath_join read isName]
  simp only [bind, Except.bind, leads.findFileRoom_eq unlimited isName]
  cases tree.entry? (place ++ [name]) <;> rfl

theorem Opens.isFile_iff :
    tree.isFile (join text name) = true ↔
      ∃ bytes, tree.entry? (place ++ [name]) = some (.file bytes) := by
  obtain ⟨path, read, leads⟩ := opens
  rw [isFile, readFile, unlimited.readShortPath_eq, readPath_join read isName]
  simp only [bind, Except.bind, leads.find_eq unlimited isName]
  cases tree.entry? (place ++ [name]) with
  | none => simp
  | some entry => cases entry <;> simp

/-- A directory is made where there is nothing, and is left where there is one. -/
theorem Opens.makeDirectories_eq :
    tree.makeDirectories (join text name) =
      match tree.entry? (place ++ [name]) with
      | none => (.ok (), tree.put (place ++ [name]) .directory)
      | some .directory => (.ok (), tree)
      | some (.file _) => (.error .alreadyExists, tree) := by
  obtain ⟨path, read, leads⟩ := opens
  have readJoined := readPath_join read isName
  rw [makeDirectories, if_neg (readPath_eq_ok_iff.mp readJoined).2.1, unlimited.readShortPath_eq,
    readJoined]
  exact leads.makeAround_eq unlimited isName

/-- A directory in a directory is one. -/
theorem Opens.entered (found : tree.entry? (place ++ [name]) = some .directory) :
    tree.Opens (join text name) (place ++ [name]) := by
  obtain ⟨path, read, leads⟩ := opens
  exact ⟨path.enter name, readPath_join read isName, leads.locate_enter unlimited isName, found⟩

end Entries

/-! ## Something new in the tree -/

theorem get?_of_free (free : tree.entry? place = none) :
    place.isPrefixOf tree.home = false ∧ tree.entries.get? place = none := by
  unfold entry? at free
  split at free
  · contradiction
  · next outside => exact ⟨Bool.eq_false_iff.mpr outside, free⟩

section Put

variable (free : tree.entry? place = none) (entry : FileEntry)

include free

theorem entry?_put (other : List String) :
    entry? (tree.put place entry) other =
      if other = place then some entry else tree.entry? other := by
  obtain ⟨outside, -⟩ := get?_of_free free
  unfold entry? put
  by_cases same : other = place
  · subst same
    simp [outside, SortedMap.get?_insert]
  · simp [same, SortedMap.get?_insert]

theorem entry?_put_of_some {other : List String} {present : FileEntry}
    (found : tree.entry? other = some present) :
    entry? (tree.put place entry) other = some present := by
  have different : other ≠ place := by
    rintro rfl
    rw [free] at found
    contradiction
  rw [entry?_put free, if_neg different, found]

theorem enter_put {start next : List String} (entered : tree.enter start name = .ok next) :
    (tree.put place entry).enter start name = .ok next := by
  unfold enter at entered ⊢
  cases found : tree.entry? start with
  | none =>
      rw [found] at entered
      contradiction
  | some present =>
      rw [entry?_put_of_some free entry found]
      rw [found] at entered
      exact entered

theorem follow_put {start next : List String} {names : List String}
    (followed : tree.follow start names = .ok next) :
    (tree.put place entry).follow start names = .ok next := by
  induction names generalizing start with
  | nil => exact followed
  | cons name names inductionHypothesis =>
      unfold follow at followed ⊢
      cases entered : tree.enter start name with
      | error fault =>
          rw [entered] at followed
          contradiction
      | ok further =>
          rw [enter_put free entry entered]
          rw [entered] at followed
          exact inductionHypothesis followed

/-- What leads to a directory still does. -/
theorem Opens.put {other : List String} (opens : tree.Opens text other) :
    (tree.put place entry).Opens text other := by
  obtain ⟨path, read, leads⟩ := opens
  exact ⟨path, read, follow_put free entry leads.locate_eq,
    entry?_put_of_some free entry leads.entry_eq⟩

end Put

theorem Unlimited.put (unlimited : tree.Unlimited) (place : List String) (entry : FileEntry) :
    (tree.put place entry).Unlimited :=
  ⟨unlimited.nameLimit_eq, unlimited.pathLimit_eq⟩

/-- The directory has one name more, and no other directory has. -/
theorem namesIn_put (free : tree.entry? (place ++ [name]) = none) (entry : FileEntry)
    (other : List String) :
    ((tree.put (place ++ [name]) entry).namesIn other).Perm
      (if other = place then name :: tree.namesIn other else tree.namesIn other) := by
  have keys : (tree.put (place ++ [name]) entry).entries.keys.Perm
      ((place ++ [name]) :: tree.entries.keys) :=
    SortedMap.keys_insert_perm (get?_of_free free).2
  refine ((keys.filter _).filterMap _).trans ?_
  by_cases same : other = place
  · subst same
    rw [if_pos rfl, namesIn]
    simp
  · rw [if_neg same, namesIn]
    simp [Ne.symm same]

/-! ## An empty directory -/

theorem entry?_of_mem_namesIn (member : name ∈ tree.namesIn place) :
    tree.entry? (place ++ [name]) ≠ none := by
  obtain ⟨key, listed, last⟩ := List.mem_filterMap.mp member
  obtain ⟨isKey, inPlace⟩ := List.mem_filter.mp listed
  obtain ⟨-, front⟩ := Bool.and_eq_true_iff.mp inPlace
  have whole : place ++ [name] = key := by
    rw [← beq_iff_eq.mp front]
    exact List.dropLast_append_getLast? name last
  intro free
  obtain ⟨-, absent⟩ := get?_of_free free
  rw [whole] at absent
  have contained := (tree.entries.contains_iff_mem_keys key).mpr isKey
  rw [SortedMap.contains, absent] at contained
  contradiction

/-- The text leads to a directory with nothing in it, in a tree without limits. -/
structure OpensEmpty (tree : FileTree) (text : String) (place : List String) : Prop where
  unlimited : tree.Unlimited
  opens : tree.Opens text place
  nothing : ∀ more, more ≠ [] → tree.entry? (place ++ more) = none

theorem OpensEmpty.namesIn_eq (empty : tree.OpensEmpty text place) (more : List String) :
    tree.namesIn (place ++ more) = [] := by
  refine List.eq_nil_iff_forall_not_mem.mpr fun name member => ?_
  refine entry?_of_mem_namesIn member ?_
  rw [List.append_assoc]
  exact empty.nothing _ (by simp)

/-- A tree with one directory, and nothing in it. -/
def withOne (name : String) : FileTree :=
  ⟨[], "", none, none, 0, ⟨[([name], .directory)]⟩⟩

theorem opensEmpty_withOne (isName : IsName name) : (withOne name).OpensEmpty name [name] := by
  have entries (place : List String) : entry? (withOne name) place =
      if place = [] ∨ place = [name] then some .directory else none := by
    have found : (withOne name).entries.get? place =
        if place = [name] then some .directory else none :=
      SortedMap.get?_insert .empty [name] place FileEntry.directory
    cases place with
    | nil => rfl
    | cons first rest =>
        unfold entry?
        rw [if_neg (by simp [withOne]), found]
        simp
  have relative : (FilePath.ofText name).isAbsolute = false :=
    decide_eq_false fun starts => isName.noSlash (List.mem_of_head? starts)
  have read := readPath_eq_ok_iff.mpr ⟨isName.noNul, isName.nonempty, rfl⟩
  refine ⟨⟨rfl, rfl⟩, ⟨.ofText name, read, ?_, ?_⟩, fun more some => ?_⟩
  · show (withOne name).follow _ (namesOf name.toList) = _
    rw [isName.namesOf_eq, relative]
    have entered : (withOne name).enter [] name = .ok [name] := by
      rw [enter, entries, if_pos (.inl rfl)]
      simp [isName.notBack, withOne, isOver]
    show (withOne name).follow [] [name] = _
    rw [follow, entered]
    rfl
  · rw [entries, if_pos (.inr rfl)]
  · rw [entries, if_neg]
    simpa using some

end FileTree

end ImageImport
