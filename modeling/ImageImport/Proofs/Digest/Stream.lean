import ImageImport.Digest.Stream

/-!
Contract: the digest of what a reader hands out is the digest of the bytes up to its end.

Only what is handed out in front of the first read that finds the end or fails counts, and nothing
else about the reads: not how the bytes are cut, nor how large the buffer is, nor the interruptions.

A reader over bytes in memory hands out pieces that make up the bytes, none of them empty, so that
none is taken for the end of the input.

Owns: what is absorbed from any reader, and the bytes of a reader over memory.
Does not own: which reads the other readers answer with.
-/

namespace ImageImport

namespace ReadOutcome

variable {outcomes before rest : List ReadOutcome} {outcome last : ReadOutcome} {bytes : List UInt8}

/-- The end of the input, or a fault: what is read behind it does not count. -/
def Stops (outcome : ReadOutcome) : Prop :=
  outcome = .bytes [] ∨ ∃ fault, outcome = .failed fault

instance (outcome : ReadOutcome) : Decidable outcome.Stops :=
  match outcome with
  | .bytes [] => isTrue (.inl rfl)
  | .bytes (_ :: _) => isFalse (by simp [Stops])
  | .interrupted => isFalse (by simp [Stops])
  | .failed fault => isTrue (.inr ⟨fault, rfl⟩)

def handedOut : ReadOutcome → List UInt8
  | .bytes chunk => chunk
  | _ => []

/-- The first read that finds the end or fails, and all bytes handed out in front of it, in order. -/
def ComesTo (outcomes : List ReadOutcome) (bytes : List UInt8) (last : ReadOutcome) : Prop :=
  ∃ before after, outcomes = before ++ last :: after ∧ (∀ outcome ∈ before, ¬ outcome.Stops) ∧
    last.Stops ∧ bytes = before.flatMap handedOut

/-- Reads come to something as soon as one of them finds the end or fails. -/
theorem exists_comesTo (stops : ∃ outcome ∈ outcomes, outcome.Stops) :
    ∃ bytes last, ComesTo outcomes bytes last := by
  obtain ⟨outcome, member, stopsHere⟩ := stops
  have isSome : (outcomes.find? fun outcome => decide outcome.Stops).isSome :=
    List.find?_isSome.mpr ⟨outcome, member, decide_eq_true stopsHere⟩
  obtain ⟨last, isFirst⟩ := Option.isSome_iff_exists.mp isSome
  obtain ⟨stopsLast, before, after, rfl, goOn⟩ := List.find?_eq_some_iff_append.mp isFirst
  refine ⟨_, last, before, after, rfl, fun outcome inFront => ?_, of_decide_eq_true stopsLast, rfl⟩
  simpa using goOn outcome inFront

/-- Reading on hands out what the reads in front bring, and then what comes behind them. -/
theorem drain_append (goOn : ∀ outcome ∈ before, ¬ outcome.Stops) :
    drain (before ++ rest) = (drain rest).map (before.flatMap handedOut ++ ·) := by
  induction before with
  | nil =>
      rw [List.nil_append]
      cases drain rest <;> rfl
  | cons first others inductionHypothesis =>
      obtain ⟨goesOn, othersGoOn⟩ := List.forall_mem_cons.mp goOn
      have later := inductionHypothesis othersGoOn
      cases first with
      | failed fault => exact absurd (.inr ⟨fault, rfl⟩) goesOn
      | interrupted => exact later
      | bytes chunk =>
          have nonempty : chunk ≠ [] := fun empty => goesOn (.inl (congrArg _ empty))
          rw [List.cons_append, drain, later]
          · cases drain rest with
            | error fault => rfl
            | ok more => simp [Except.map, handedOut]
          · exact nonempty

theorem ComesTo.drain_eq (comes : ComesTo outcomes bytes last) :
    drain outcomes = (drain [last]).map fun _ => bytes := by
  obtain ⟨before, after, rfl, goOn, stops, rfl⟩ := comes
  rw [drain_append goOn]
  rcases stops with rfl | ⟨fault, rfl⟩
  · exact congrArg Except.ok (List.append_nil _)
  · rfl

end ReadOutcome

/-- All pieces are handed out, in order. -/
theorem ReadOutcome.drain_chunks {size : Nat} (positive : 0 < size) (bytes : List UInt8) :
    drain ((chunks size bytes).map .bytes) = .ok bytes := by
  fun_induction chunks size bytes with
  | case1 bytes ended =>
      have empty : bytes = [] := by
        simpa [Nat.ne_of_gt positive] using ended
      rw [empty]
      rfl
  | case2 bytes more inductionHypothesis =>
      obtain ⟨first, rest, piece⟩ : ∃ first rest, bytes.take size = first :: rest := by
        apply List.exists_cons_of_ne_nil
        simpa [and_comm] using more
      have whole : (first :: rest) ++ bytes.drop size = bytes := by
        rw [← piece, List.take_append_drop]
      rw [piece, List.map_cons, drain, inductionHypothesis]
      · exact congrArg Except.ok whole
      · nofun

namespace Digest

variable {Chain : Type}

/-- What is left in the buffer from an earlier read is not absorbed again. -/
theorem take_refill (chunk buffer : List UInt8) : (refill chunk buffer).take chunk.length = chunk :=
  List.take_left

/-- What is read up to the end is absorbed as a whole, and a fault in front of the end is passed on,
whatever the buffer held. -/
theorem Scheme.pump_eq (scheme : Scheme Chain) (buffer : List UInt8) (progress : Progress Chain)
    (outcomes : List ReadOutcome) :
    scheme.pump buffer progress outcomes =
      (ReadOutcome.drain outcomes).map (scheme.absorb progress) := by
  induction outcomes generalizing buffer progress with
  | nil => rfl
  | cons outcome rest inductionHypothesis =>
      cases outcome with
      | failed fault => rfl
      | interrupted => exact inductionHypothesis buffer progress
      | bytes chunk =>
          cases chunk with
          | nil => rfl
          | cons byte more =>
              rw [pump, take_refill, inductionHypothesis, ReadOutcome.drain]
              · cases ReadOutcome.drain rest with
                | error fault => rfl
                | ok later => exact congrArg Except.ok (scheme.absorb_append progress _ _).symm
              · nofun
              · nofun

theorem Scheme.hexDigestOfReader_eq (scheme : Scheme Chain) (reader : Reader) (bufferSize : Nat) :
    scheme.hexDigestOfReader reader bufferSize =
      (ReadOutcome.drain (reader (max bufferSize 1))).map scheme.hexDigest := by
  rw [hexDigestOfReader, scheme.pump_eq]
  cases ReadOutcome.drain (reader (max bufferSize 1)) <;> rfl

/-- The digest of a reader, by what its reads come to and nothing else. -/
theorem Scheme.hexDigestOfReader_of_comesTo (scheme : Scheme Chain) {reader : Reader}
    {bufferSize : Nat} {bytes : List UInt8} {last : ReadOutcome}
    (comes : ReadOutcome.ComesTo (reader (max bufferSize 1)) bytes last) :
    scheme.hexDigestOfReader reader bufferSize =
      (ReadOutcome.drain [last]).map fun _ => scheme.hexDigest bytes := by
  rw [scheme.hexDigestOfReader_eq, comes.drain_eq]
  cases ReadOutcome.drain [last] <;> rfl

/-- Whatever the size of the buffer, the digest is that of the bytes. -/
theorem Scheme.hexDigestOfReader_ofBytes (scheme : Scheme Chain) (bytes : List UInt8)
    (bufferSize : Nat) :
    scheme.hexDigestOfReader (Reader.ofBytes bytes) bufferSize = .ok (scheme.hexDigest bytes) := by
  have positive : 0 < max bufferSize 1 := by omega
  rw [scheme.hexDigestOfReader_eq, Reader.ofBytes, ReadOutcome.drain_chunks positive]
  rfl

/-- A reader of which some read finds the end or fails has the digests, taken in one go, of all bytes
that are handed out in front of the first such read, each once and in order; or that read's fault
instead. So two readers whose reads come to the same have the same digests, whatever their buffers,
however their bytes are cut and wherever they are interrupted. -/
theorem digests_of_what_reads_come_to (reader : Reader) (bufferSize : Nat)
    (stops : ∃ outcome ∈ reader (max bufferSize 1), outcome.Stops) :
    (∃ bytes last, ReadOutcome.ComesTo (reader (max bufferSize 1)) bytes last) ∧
    ∀ bytes last, ReadOutcome.ComesTo (reader (max bufferSize 1)) bytes last →
      (last = .bytes [] →
        Md5.scheme.hexDigestOfReader reader bufferSize = .ok (Md5.scheme.hexDigest bytes) ∧
        Sha256.scheme.hexDigestOfReader reader bufferSize = .ok (Sha256.scheme.hexDigest bytes)) ∧
      (∀ fault, last = .failed fault →
        Md5.scheme.hexDigestOfReader reader bufferSize = .error fault ∧
        Sha256.scheme.hexDigestOfReader reader bufferSize = .error fault) ∧
      ∀ (other : Reader) (otherSize : Nat),
        ReadOutcome.ComesTo (other (max otherSize 1)) bytes last →
        Md5.scheme.hexDigestOfReader other otherSize =
          Md5.scheme.hexDigestOfReader reader bufferSize ∧
        Sha256.scheme.hexDigestOfReader other otherSize =
          Sha256.scheme.hexDigestOfReader reader bufferSize := by
  refine ⟨ReadOutcome.exists_comesTo stops, fun bytes last comes => ?_⟩
  have digest {Chain : Type} (scheme : Scheme Chain) := scheme.hexDigestOfReader_of_comesTo comes
  refine ⟨?_, ?_, fun other otherSize same => ?_⟩
  · rintro rfl
    exact ⟨digest _, digest _⟩
  · rintro fault rfl
    exact ⟨digest _, digest _⟩
  · have otherDigest {Chain : Type} (scheme : Scheme Chain) :=
      scheme.hexDigestOfReader_of_comesTo same
    exact ⟨(otherDigest _).trans (digest _).symm, (otherDigest _).trans (digest _).symm⟩

/-- A long read, an interruption and a short read, which leaves two stale bytes in the buffer, have
the digests of single bytes read into a buffer of no size; a fault in front of the end has none. -/
theorem short_reads_are_digested_as_one :
    let fault : DeviceFault := .reported "broken stream"
    let uneven : Reader := fun _ =>
      [.bytes [1, 2, 3], .interrupted, .bytes [4], .bytes [], .failed fault]
    let single : Reader := fun _ =>
      [.interrupted, .bytes [1], .bytes [2], .bytes [3], .bytes [4], .bytes []]
    let broken : Reader := fun _ => [.bytes [1], .interrupted, .failed fault, .bytes []]
    Md5.scheme.hexDigestOfReader uneven 3 = .ok (Md5.scheme.hexDigest [1, 2, 3, 4]) ∧
      Sha256.scheme.hexDigestOfReader single 0 = Sha256.scheme.hexDigestOfReader uneven 3 ∧
      Sha256.scheme.hexDigestOfReader broken 8 = .error fault := by
  intro fault uneven single broken
  have unevenComes : ReadOutcome.ComesTo (uneven 3) [1, 2, 3, 4] (.bytes []) :=
    ⟨[.bytes [1, 2, 3], .interrupted, .bytes [4]], [.failed fault], rfl, by decide, by decide, rfl⟩
  have singleComes : ReadOutcome.ComesTo (single 1) [1, 2, 3, 4] (.bytes []) :=
    ⟨[.interrupted, .bytes [1], .bytes [2], .bytes [3], .bytes [4]], [], rfl, by decide, by decide,
      rfl⟩
  have brokenComes : ReadOutcome.ComesTo (broken 8) [1] (.failed fault) :=
    ⟨[.bytes [1], .interrupted], [.bytes []], rfl, by decide, by decide, rfl⟩
  obtain ⟨-, ofUneven⟩ := digests_of_what_reads_come_to uneven 3 (by decide)
  obtain ⟨-, ofBroken⟩ := digests_of_what_reads_come_to broken 8 (by decide)
  obtain ⟨whole, -, alike⟩ := ofUneven _ _ unevenComes
  obtain ⟨-, fails, -⟩ := ofBroken _ _ brokenComes
  exact ⟨(whole rfl).1, (alike single 0 singleComes).2, (fails fault rfl).2⟩

end Digest

end ImageImport
