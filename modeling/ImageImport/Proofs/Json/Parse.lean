import ImageImport.Json.Reader
import ImageImport.Proofs.Json.Scan

/-!
Contract: a printed value is parsed as that value, in either layout and to any depth.

The reading of a value goes from the place where one may stand to the place where it has ended, with
the same containers open around it. What is open is kept in the frames, so that the items of an array
and the members of an object come behind those read before.

Owns: the reading of the tokens of a value, and `parse?` as the inverse of `print`.
Does not own: texts that were not printed.
-/

namespace ImageImport.Json

open Token Reading

theorem run?_cons (reading : Reading) (token : Token) (rest : List Token) :
    reading.run? (token :: rest) = (reading.step? token).bind fun next => next.run? rest := by
  rw [run?]
  cases reading.step? token <;> rfl

/-- A value has a first token, which closes nothing. -/
theorem exists_first_token (value : Json) :
    ∃ first rest, tokensOf value = first :: rest ∧ first ≠ .closeBracket := by
  unfold tokensOf
  split <;> exact ⟨_, _, rfl, by simp⟩

/-- Where an item may stand, a value begins as it does anywhere. -/
theorem run?_itemOrClose (frames : List Frame) (value : Json) (rest : List Token) :
    run? ⟨frames, .itemOrClose⟩ (tokensOf value ++ rest) =
      run? ⟨.items [] :: frames, .value⟩ (tokensOf value ++ rest) := by
  obtain ⟨first, others, begins, notClose⟩ := exists_first_token value
  rw [begins, List.cons_append, run?_cons, run?_cons]
  congr 1
  cases first <;> first | rfl | exact absurd rfl notClose

/-- An object whose names are all usable is the object of its members. -/
theorem objectOf_some (members : List (String × Json)) :
    objectOf (members.map fun member => (some member.1, member.2)).reverse = .obj members := by
  have read : (members.map fun member => (some member.1, member.2)).mapM
      (fun member => member.1.map fun name => (name, member.2)) = some members := by
    rw [List.mapM_map]
    exact List.mapM_pure.trans (congrArg some (List.map_id members))
  rw [objectOf, List.reverse_reverse, read]

mutual

/-- The tokens of a value are read as the value. -/
theorem run?_tokensOf : ∀ (value : Json) (frames : List Frame) (rest : List Token),
    run? ⟨frames, .value⟩ (tokensOf value ++ rest) = run? ⟨frames, .ended value⟩ rest
  | .null, _, _ => by rw [tokensOf]; rfl
  | .bool _, _, _ => by rw [tokensOf]; rfl
  | .int _, _, _ => by rw [tokensOf]; rfl
  | .str _, _, _ => by rw [tokensOf]; rfl
  | .unusable, _, _ => by rw [tokensOf]; rfl
  | .arr [], _, _ => by rw [tokensOf]; rfl
  | .obj [], _, _ => by rw [tokensOf]; rfl
  | .arr (item :: items), frames, rest => by
      have opened : run? ⟨frames, .value⟩ (tokensOf (.arr (item :: items)) ++ rest) =
          run? ⟨frames, .itemOrClose⟩
            (tokensOf item ++ (itemTokens items ++ (.closeBracket :: rest))) := by
        rw [tokensOf]
        simp only [List.append_assoc, List.singleton_append]
        rfl
      rw [opened, run?_itemOrClose, run?_tokensOf item, run?_itemTokens items]
      rfl
  | .obj ((name, value) :: members), frames, rest => by
      have opened : run? ⟨frames, .value⟩ (tokensOf (.obj ((name, value) :: members)) ++ rest) =
          run? ⟨.members [] (some name) :: frames, .value⟩
            (tokensOf value ++ (memberTokens members ++ (.closeBrace :: rest))) := by
        rw [tokensOf]
        simp only [List.append_assoc, List.cons_append, List.nil_append]
        rfl
      rw [opened, run?_tokensOf value]
      exact run?_memberTokens members name value [] frames rest

/-- The items behind one that has ended are read up to the end of their array. -/
theorem run?_itemTokens : ∀ (items : List Json) (item : Json) (reversed : List Json)
    (frames : List Frame) (rest : List Token),
    run? ⟨.items reversed :: frames, .ended item⟩ (itemTokens items ++ (.closeBracket :: rest)) =
      run? ⟨frames, .ended (.arr ((item :: reversed).reverse ++ items))⟩ rest
  | [], _, _, _, _ => by
      rw [itemTokens, List.append_nil]
      rfl
  | next :: items, item, reversed, frames, rest => by
      have behindComma : run? ⟨.items reversed :: frames, .ended item⟩
          (itemTokens (next :: items) ++ (.closeBracket :: rest)) =
          run? ⟨.items (item :: reversed) :: frames, .value⟩
            (tokensOf next ++ (itemTokens items ++ (.closeBracket :: rest))) := by
        rw [itemTokens]
        simp only [List.append_assoc, List.singleton_append]
        rfl
      rw [behindComma, run?_tokensOf next, run?_itemTokens items]
      simp

/-- The members behind one that has ended are read up to the end of their object. -/
theorem run?_memberTokens : ∀ (members : List (String × Json)) (name : String) (value : Json)
    (earlier : List (String × Json)) (frames : List Frame) (rest : List Token),
    run? ⟨.members (earlier.map fun member => (some member.1, member.2)).reverse (some name) ::
        frames, .ended value⟩ (memberTokens members ++ (.closeBrace :: rest)) =
      run? ⟨frames, .ended (.obj (earlier ++ (name, value) :: members))⟩ rest
  | [], name, value, earlier, frames, rest => by
      have whole := objectOf_some (earlier ++ [(name, value)])
      simp only [List.map_append, List.map_cons, List.map_nil, List.reverse_append,
        List.reverse_cons, List.reverse_nil, List.nil_append, List.singleton_append] at whole
      rw [memberTokens, ← whole]
      rfl
  | (next, item) :: members, name, value, earlier, frames, rest => by
      have behindComma : run? ⟨.members (earlier.map fun member =>
          (some member.1, member.2)).reverse (some name) :: frames, .ended value⟩
          (memberTokens ((next, item) :: members) ++ (.closeBrace :: rest)) =
          run? ⟨.members ((earlier ++ [(name, value)]).map fun member =>
            (some member.1, member.2)).reverse (some next) :: frames, .value⟩
            (tokensOf item ++ (memberTokens members ++ (.closeBrace :: rest))) := by
        rw [memberTokens]
        simp only [List.append_assoc, List.cons_append, List.nil_append, List.map_append,
          List.map_cons, List.map_nil, List.reverse_append, List.reverse_cons, List.reverse_nil]
        rfl
      rw [behindComma, run?_tokensOf item, run?_memberTokens members]
      simp

end

/-- What is printed is parsed as what it was printed for. -/
theorem parse?_print (layout : Layout) (value : Json) :
    parse? (print layout value) = some value := by
  have scanned := (scans_render layout value 0).scan?_eq
  have read : start.run? (tokensOf value) = some ⟨[], .ended value⟩ := by
    have ended := run?_tokensOf value [] []
    rw [List.append_nil] at ended
    exact ended
  simp only [parse?, print, String.toList_ofList, scanned, read]
  rfl

end ImageImport.Json
