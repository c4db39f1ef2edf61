import ImageImport.Locator
import ImageImport.Proofs.Text.Pieces

/-!
Contract: which locators are read back from their written form.

Reading splits at the characters that the path never holds once it is encoded, so that the first
question mark is the one in front of the query. Digests are not encoded: they are read back unless
they are empty, hold the separator of the query, or would be lowered on the way.

Owns: the round trip in both directions, `Locator.parse_text_iff_writable`.
Does not own: the stored form of a locator, which can hold locators that are not writable.
-/

namespace ImageImport.Locator

open Text

/-! ## Paths -/

/-- No character is encoded by one that splits a written locator. -/
theorem questionMark_not_mem_encodeChar (c : Char) : '?' ∉ encodeChar c := by
  unfold encodeChar
  split_ifs with percent question ampersand
  · decide
  · decide
  · decide
  · simpa using Ne.symm question

theorem questionMark_not_mem_encodePath (path : List Char) : '?' ∉ encodePath path := by
  intro member
  obtain ⟨c, -, inCode⟩ := List.mem_flatMap.mp member
  exact questionMark_not_mem_encodeChar c inCode

theorem encodePath_ne_nil {path : List Char} (nonempty : path ≠ []) : encodePath path ≠ [] := by
  cases path with
  | nil => contradiction
  | cons c rest =>
      rw [encodePath, List.flatMap_cons]
      unfold encodeChar
      split_ifs <;> simp

theorem decodePath?_cons_of_ne {c : Char} (plain : c ≠ '%') (rest : List Char) :
    decodePath? (c :: rest) = (decodePath? rest).map (c :: ·) := by
  rw [decodePath?.eq_def]
  split
  · contradiction
  · next equal => exact absurd (List.cons.inj equal).1 plain
  · next equal =>
      obtain ⟨rfl, rfl⟩ := List.cons.inj equal
      rw [if_neg plain]

/-- The code of a character is read as that character. -/
theorem decodePath?_encodeChar (c : Char) (rest : List Char) :
    decodePath? (encodeChar c ++ rest) = (decodePath? rest).map (c :: ·) := by
  unfold encodeChar
  split_ifs with percent question ampersand
  · subst percent
    rfl
  · subst question
    rfl
  · subst ampersand
    rfl
  · exact decodePath?_cons_of_ne percent rest

theorem decodePath?_encodePath (path : List Char) :
    decodePath? (encodePath path) = some path := by
  induction path with
  | nil => rfl
  | cons c rest inductionHypothesis =>
      have front : encodePath (c :: rest) = encodeChar c ++ encodePath rest := rfl
      rw [front, decodePath?_encodeChar, inductionHypothesis]
      rfl

/-- Each code stands for a character, so that nothing but the empty path is read as empty. -/
theorem decoded_ne_nil {coded decoded : List Char} (read : decodePath? coded = some decoded)
    (nonempty : coded ≠ []) : decoded ≠ [] := by
  rw [decodePath?.eq_def] at read
  split at read
  · contradiction
  · split at read
    · obtain ⟨later, -, rfl⟩ := Option.map_eq_some_iff.mp read
      exact List.cons_ne_nil _ _
    · contradiction
  · split_ifs at read
    obtain ⟨later, -, rfl⟩ := Option.map_eq_some_iff.mp read
    exact List.cons_ne_nil _ _

/-! ## Digests -/

/-- A digest is writable once it has been lowered, if no separator splits it. -/
theorem writableDigest_toAsciiLower {digest : List Char} (nonempty : digest ≠ [])
    (unsplit : '&' ∉ digest) : WritableDigest (toAsciiLower (String.ofList digest)) := by
  unfold WritableDigest toAsciiLower
  simp only [String.toList_ofList, ne_eq, List.mem_map, forall_exists_index, and_imp]
  refine ⟨by simpa using nonempty, ?_⟩
  rintro lowered c member rfl
  refine ⟨?_, toLower_not_upper c⟩
  intro separator
  obtain ⟨same, -⟩ := eq_of_toLower_lt (show c.toLower.toNat < 97 by rw [separator]; decide)
  rw [← same, separator] at member
  exact unsplit member

theorem WritableDigest.lowered {digest : String} (writable : WritableDigest digest) :
    toAsciiLower digest = digest :=
  toAsciiLower_eq_self fun c member => (writable.2 c member).2

theorem WritableDigest.toList_ne_nil {digest : String} (writable : WritableDigest digest) :
    digest.toList ≠ [] := by
  simpa using writable.1

/-- Behind a key that the separator does not split, a writable digest is a parameter of its own. -/
theorem WritableDigest.unsplit_parameter {digest : String} (writable : WritableDigest digest)
    {key : List Char} (plain : '&' ∉ key) : '&' ∉ key ++ '=' :: digest.toList := by
  rw [List.mem_append, List.mem_cons, not_or, not_or]
  exact ⟨plain, by decide, fun member => (writable.2 '&' member).1 rfl⟩

/-! ## Queries -/

section Parameters

variable {locator next : Locator} {value parameter : List Char}

theorem addParameter?_md5 (nonempty : value ≠ []) :
    locator.addParameter? (md5Key ++ '=' :: value) =
      some (locator.withMd5 (String.ofList value)) := by
  have cut : splitFirst? '=' (md5Key ++ '=' :: value) = some (md5Key, value) :=
    splitFirst?_append (by decide)
  simp [addParameter?, cut, nonempty]

theorem addParameter?_sha256 (nonempty : value ≠ []) :
    locator.addParameter? (sha256Key ++ '=' :: value) =
      some (locator.withSha256 (String.ofList value)) := by
  have cut : splitFirst? '=' (sha256Key ++ '=' :: value) = some (sha256Key, value) :=
    splitFirst?_append (by decide)
  have otherKey : sha256Key ≠ md5Key := by decide
  simp [addParameter?, cut, nonempty, otherKey]

theorem addParameters?_singleton :
    locator.addParameters? [parameter] = locator.addParameter? parameter := by
  rw [addParameters?]
  cases locator.addParameter? parameter <;> rfl

/-- A parameter that is accepted gives one of the digests. -/
theorem addParameter?_cases (added : locator.addParameter? parameter = some next) :
    ∃ key value, parameter = key ++ '=' :: value ∧ value ≠ [] ∧
      (next = locator.withMd5 (String.ofList value) ∨
        next = locator.withSha256 (String.ofList value)) := by
  unfold addParameter? at added
  split at added
  · next key value cut =>
      refine ⟨key, value, eq_append_of_splitFirst? cut, ?_⟩
      split_ifs at added with empty isMd5 isSha256
      · exact ⟨by simpa using empty, .inl (Option.some.inj added).symm⟩
      · exact ⟨by simpa using empty, .inr (Option.some.inj added).symm⟩
  · contradiction

theorem Writable.addParameter? (writable : locator.Writable) (unsplit : '&' ∉ parameter)
    (added : locator.addParameter? parameter = some next) : next.Writable := by
  obtain ⟨hasPath, md5Writable, sha256Writable⟩ := writable
  obtain ⟨key, value, rfl, nonempty, rfl | rfl⟩ := addParameter?_cases added
  all_goals
    have lowered := writableDigest_toAsciiLower nonempty
      fun member => unsplit (List.mem_append_right _ (List.mem_cons_of_mem _ member))
  · exact ⟨hasPath, by simpa [withMd5] using lowered, sha256Writable⟩
  · exact ⟨hasPath, md5Writable, by simpa [withSha256] using lowered⟩

theorem Writable.addParameters? {parameters : List (List Char)} (writable : locator.Writable)
    (unsplit : ∀ parameter ∈ parameters, '&' ∉ parameter)
    (added : locator.addParameters? parameters = some next) : next.Writable := by
  induction parameters generalizing locator with
  | nil =>
      obtain rfl := Option.some.inj added
      exact writable
  | cons parameter rest inductionHypothesis =>
      rw [Locator.addParameters?] at added
      cases first : locator.addParameter? parameter with
      | none =>
          rw [first] at added
          contradiction
      | some between =>
          rw [first] at added
          have kept := writable.addParameter? (unsplit parameter (by simp)) first
          exact inductionHypothesis kept
            (fun other member => unsplit other (List.mem_cons_of_mem _ member)) added

end Parameters

/-! ## Whole locators -/

theorem read?_of_no_query {path : List Char} (nonempty : path ≠ []) :
    read? (scheme ++ encodePath path) = some (ofPath (String.ofList path)) := by
  have dropped : dropBeginning? scheme (scheme ++ encodePath path) = some (encodePath path) :=
    dropBeginning?_eq_some_iff.mpr rfl
  have uncut := splitFirst?_of_not_mem (questionMark_not_mem_encodePath path)
  simp [read?, dropped, uncut, encodePath_ne_nil nonempty, decodePath?_encodePath,
    Locator.addParameters?]

/-- The first question mark is the one in front of the query. -/
theorem read?_of_query {path : List Char} (nonempty : path ≠ []) (query : List Char) :
    read? (scheme ++ encodePath path ++ '?' :: query) =
      (ofPath (String.ofList path)).addParameters? (split '&' query) := by
  rw [List.append_assoc]
  have dropped : dropBeginning? scheme (scheme ++ (encodePath path ++ '?' :: query)) =
      some (encodePath path ++ '?' :: query) := dropBeginning?_eq_some_iff.mpr rfl
  have cut : splitFirst? '?' (encodePath path ++ '?' :: query) = some (encodePath path, query) :=
    splitFirst?_append (questionMark_not_mem_encodePath path)
  simp [read?, dropped, cut, encodePath_ne_nil nonempty, decodePath?_encodePath]

theorem Writable.read?_text {locator : Locator} (writable : locator.Writable) :
    read? locator.text.toList = some locator := by
  obtain ⟨path, md5, sha256⟩ := locator
  obtain ⟨hasPath, md5Writable, sha256Writable⟩ := writable
  have nonempty : path.toList ≠ [] := by simpa using hasPath
  rw [text, String.toList_ofList]
  dsimp only
  cases md5 with
  | none =>
      cases sha256 with
      | none =>
          rw [encodeQuery, List.append_nil, read?_of_no_query nonempty, String.ofList_toList]
          rfl
      | some s =>
          have writableS : WritableDigest s := sha256Writable s rfl
          have unsplitS := writableS.unsplit_parameter (show '&' ∉ sha256Key by decide)
          rw [encodeQuery, List.cons_append, read?_of_query nonempty, split_of_not_mem unsplitS,
            addParameters?_singleton, addParameter?_sha256 writableS.toList_ne_nil]
          simp [withSha256, ofPath, writableS.lowered]
  | some m =>
      have writableM : WritableDigest m := md5Writable m rfl
      have unsplitM := writableM.unsplit_parameter (show '&' ∉ md5Key by decide)
      cases sha256 with
      | none =>
          rw [encodeQuery, List.cons_append, read?_of_query nonempty, split_of_not_mem unsplitM,
            addParameters?_singleton, addParameter?_md5 writableM.toList_ne_nil]
          simp [withMd5, ofPath, writableM.lowered]
      | some s =>
          have writableS : WritableDigest s := sha256Writable s rfl
          have unsplitS := writableS.unsplit_parameter (show '&' ∉ sha256Key by decide)
          have query : encodeQuery (some m) (some s) =
              '?' :: (md5Key ++ '=' :: m.toList ++ '&' :: (sha256Key ++ '=' :: s.toList)) := by
            simp [encodeQuery]
          rw [query, read?_of_query nonempty, split_append unsplitM, split_of_not_mem unsplitS,
            Locator.addParameters?, addParameter?_md5 writableM.toList_ne_nil]
          dsimp only
          rw [addParameters?_singleton, addParameter?_sha256 writableS.toList_ne_nil]
          simp [withMd5, withSha256, ofPath, writableM.lowered, writableS.lowered]

theorem writable_of_parts {path decoded : List Char} {parameters : List (List Char)}
    {locator : Locator} (nonempty : path ≠ []) (decodes : decodePath? path = some decoded)
    (unsplit : ∀ parameter ∈ parameters, '&' ∉ parameter)
    (added : (ofPath (String.ofList decoded)).addParameters? parameters = some locator) :
    locator.Writable := by
  have hasPath : decoded ≠ [] := decoded_ne_nil decodes nonempty
  have start : (ofPath (String.ofList decoded)).Writable :=
    ⟨by simpa [ofPath] using hasPath, by simp [ofPath], by simp [ofPath]⟩
  exact start.addParameters? unsplit added

/-- Whatever text a locator is read from, the locator is writable. -/
theorem writable_of_read? {written : List Char} {locator : Locator}
    (read : read? written = some locator) : locator.Writable := by
  unfold read? at read
  split at read
  · contradiction
  · next rest dropped =>
      cases cut : splitFirst? '?' rest with
      | none =>
          simp only [cut] at read
          split_ifs at read with empty
          split at read
          · next decoded decodes =>
              exact writable_of_parts (by simpa using empty) decodes (by simp) read
          · contradiction
      | some parts =>
          obtain ⟨path, query⟩ := parts
          simp only [cut] at read
          split_ifs at read with empty
          split at read
          · next decoded decodes =>
              exact writable_of_parts (by simpa using empty) decodes
                (fun parameter member => not_mem_of_mem_split member) read
          · contradiction

theorem parse_eq_ok_iff {written : String} {locator : Locator} :
    parse written = .ok locator ↔ read? written.toList = some locator := by
  unfold parse
  cases read? written.toList <;> simp

/-- A locator is read back from its written form exactly if it is writable, and every locator that
is read from any text is. -/
theorem parse_text_iff_writable :
    (∀ locator : Locator, parse locator.text = .ok locator ↔ locator.Writable) ∧
      ∀ (written : String) (locator : Locator), parse written = .ok locator →
        locator.Writable ∧ parse locator.text = .ok locator := by
  simp only [parse_eq_ok_iff]
  refine ⟨fun locator => ⟨writable_of_read?, Writable.read?_text⟩, fun written locator read => ?_⟩
  have writable := writable_of_read? read
  exact ⟨writable, writable.read?_text⟩

/-- Escapes in either case, a digest with the other separators in it, and the digests given in the
other order. -/
theorem reordered_locator_is_read_back :
    let written := "file://a%3fb%2525%26?SHA256=AbC&MD5=x=y?"
    let locator : Locator := ⟨"a?b%25&", some "x=y?", some "abc"⟩
    parse written = .ok locator ∧ locator.Writable ∧ parse locator.text = .ok locator := by
  intro written locator
  have read : parse written = .ok locator := by decide
  exact ⟨read, parse_text_iff_writable.2 written locator read⟩

end ImageImport.Locator
