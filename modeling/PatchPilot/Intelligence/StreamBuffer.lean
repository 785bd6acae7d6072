import Mathlib.Data.Rat.Defs
import PatchPilot.Foundation.JsValue
import PatchPilot.Intelligence.Failures

set_option autoImplicit false

/-!
# Intelligence: a snapshot in one buffer (`stream-buffer.ts`)

The chunks of a stored snapshot are copied into a buffer that grows when it is too small.  What
is returned is a copy of as many bytes as were seen, if their number and their digest are the
expected ones.  A buffer can be allocated and a stream can be cancelled; both are left out,
except that a run says whether the stream was cancelled.
-/

namespace PatchPilot.Intelligence

open PatchPilot.Foundation

/-! ## Input and result -/

/-- A `Uint8Array`. -/
abbrev Bytes := List UInt8

/-- `IntelligenceStreamCompletion`. -/
structure IntelligenceStreamCompletion where
  observedByteLength : Nat
  sha256 : JsString
  deriving DecidableEq

/-- `GetIntelligenceSnapshotResult`: the chunks before the stream ends or throws, and what the
completion is, unless it is rejected. -/
structure GetIntelligenceSnapshotResult where
  body : List Bytes
  throws : Bool
  completion : Option IntelligenceStreamCompletion
  deriving DecidableEq

/-- `BoundedKevSnapshotCollectInput`. -/
structure BoundedKevSnapshotCollectInput where
  result : GetIntelligenceSnapshotResult
  maxBytes : JsNumber
  expectedSha256 : JsString
  expectedByteLength : JsNumber
  declaredByteLength : Option JsNumber

/-- `BoundedKevSnapshotBuffer`. -/
structure BoundedKevSnapshotBuffer where
  bytes : Bytes
  sha256 : JsString
  byteLength : Nat
  deriving DecidableEq

/-- What a call comes to. -/
inductive CollectOutcome
  | ok (value : BoundedKevSnapshotBuffer)
  | err (code : IntelligenceSafeFailureCode)
  /-- A loop does not end. -/
  | endless
  deriving DecidableEq

/-- A call: what it comes to, how many chunks it has taken, and whether it has cancelled the
stream. -/
structure CollectRun where
  outcome : CollectOutcome
  consumed : Nat
  cancelled : Bool
  deriving DecidableEq

/-! ## The buffer -/

/-- `Number.MAX_SAFE_INTEGER`. -/
def maxSafeInteger : Nat := 2 ^ 53 - 1

/-- `Number.isSafeInteger`, with the integer. -/
def safeInteger : JsNumber → Option Int
  | .finite value =>
      if value.den = 1 ∧ value.num.natAbs ≤ maxSafeInteger then some value.num else none
  | _ => none

/-- `INITIAL_ABSENT_LENGTH_CAPACITY`. -/
def initialAbsentLengthCapacity : Nat := 65536

/-- `Uint8Array.prototype.set`; `none` is a `RangeError`. -/
def setBytes (target source : Bytes) (offset : Nat) : Option Bytes :=
  if offset + source.length ≤ target.length then
    some (target.take offset ++ source ++ target.drop (offset + source.length))
  else none

/-- What becomes of the capacity. -/
inductive Growth
  | grown (capacity : Nat)
  | refused
  | endless
  deriving DecidableEq

/-- The `while` loop that doubles the capacity, for as many iterations. -/
def growTo (maxBytes next : Nat) : Nat → Nat → Growth
  | 0, grown => if grown < next then .endless else .grown grown
  | iterations + 1, grown =>
      if grown < next then
        let doubled := grown * 2
        let grown := if doubled > maxBytes then maxBytes else doubled
        if grown < next ∧ grown = maxBytes then .refused else growTo maxBytes next iterations grown
      else .grown grown

/-- The local variables of the loop over the chunks. -/
structure Collection where
  observed : Nat
  buffer : Bytes
  hashed : Bytes
  deriving DecidableEq

/-- The error of a `catch`, which cancels. -/
def snapshotStorageFailed (consumed : Nat) : CollectRun :=
  ⟨.err .snapshotStorageFailed, consumed, true⟩

/-- What follows on the last chunk. -/
def finish (sha256 : Bytes → JsString) (expectedSha256 : JsString) (expectedByteLength : Nat)
    (completion : Option IntelligenceStreamCompletion) (s : Collection) (consumed : Nat) :
    CollectRun :=
  match completion with
  | none => snapshotStorageFailed consumed
  | some completion =>
      if s.observed = 0 ∨ completion.observedByteLength = 0 then
        ⟨.err .responseEmpty, consumed, false⟩
      else if s.observed ≠ expectedByteLength ∨
          completion.observedByteLength ≠ expectedByteLength then
        ⟨.err .hashMismatch, consumed, false⟩
      else if sha256 s.hashed ≠ expectedSha256 ∨ completion.sha256 ≠ expectedSha256 then
        ⟨.err .hashMismatch, consumed, false⟩
      else
        match setBytes (List.replicate s.observed 0) (s.buffer.take s.observed) 0 with
        | none => snapshotStorageFailed consumed
        | some exact => ⟨.ok ⟨exact, sha256 s.hashed, s.observed⟩, consumed, false⟩

/-- The loop over the chunks; a capacity is doubled less often than it has bytes. -/
def collectFrom (maxBytes : Nat) (throws : Bool) (finish : Collection → Nat → CollectRun) :
    Collection → Nat → List Bytes → CollectRun
  | s, consumed, [] => if throws then snapshotStorageFailed consumed else finish s consumed
  | s, consumed, chunk :: rest =>
      let next := s.observed + chunk.length
      if next > maxBytes then ⟨.err .responseTooLarge, consumed + 1, true⟩
      else
        match growTo maxBytes next next s.buffer.length with
        | .endless => ⟨.endless, consumed + 1, false⟩
        | .refused => ⟨.err .responseTooLarge, consumed + 1, true⟩
        | .grown capacity =>
            let replacement := if next > s.buffer.length then
                setBytes (List.replicate capacity 0) (s.buffer.take s.observed) 0
              else some s.buffer
            match replacement.bind fun buffer => setBytes buffer chunk s.observed with
            | none => snapshotStorageFailed (consumed + 1)
            | some buffer =>
                collectFrom maxBytes throws finish ⟨next, buffer, s.hashed ++ chunk⟩
                  (consumed + 1) rest

/-- `collectBoundedKevSnapshotBuffer`. -/
def collectBoundedKevSnapshotBuffer (sha256 : Bytes → JsString)
    (input : BoundedKevSnapshotCollectInput) : CollectRun :=
  match safeInteger input.maxBytes, safeInteger input.expectedByteLength with
  | some maxBytes, some expectedByteLength =>
      if maxBytes < 1 ∨ expectedByteLength < 1 ∨ expectedByteLength > maxBytes then
        ⟨.err .responseTooLarge, 0, true⟩
      else
        let collect := fun capacity : Nat =>
          collectFrom maxBytes.toNat input.result.throws
            (finish sha256 input.expectedSha256 expectedByteLength.toNat input.result.completion)
            ⟨0, List.replicate capacity 0, []⟩ 0 input.result.body
        match input.declaredByteLength with
        | none => collect (min initialAbsentLengthCapacity maxBytes.toNat)
        | some declared =>
            match safeInteger declared with
            | none => ⟨.err .responseTooLarge, 0, true⟩
            | some declared =>
                if declared < 1 ∨ declared > maxBytes then ⟨.err .responseTooLarge, 0, true⟩
                else if declared ≠ expectedByteLength then ⟨.err .hashMismatch, 0, true⟩
                else collect declared.toNat
  | _, _ => ⟨.err .responseTooLarge, 0, true⟩

/-! ## The growth of the buffer -/

/-- A capacity that is not zero grows to what is needed, and not above the maximum. -/
theorem growTo_grown {maxBytes next : Nat} (hnext : next ≤ maxBytes) {iterations : Nat} :
    ∀ {grown : Nat}, 0 < grown → grown ≤ maxBytes → next ≤ grown + iterations →
      ∃ capacity, growTo maxBytes next iterations grown = .grown capacity ∧ next ≤ capacity ∧
        grown ≤ capacity ∧ capacity ≤ maxBytes := by
  induction iterations with
  | zero =>
      intro grown _ hmax henough
      exact ⟨grown, if_neg (by omega), by omega, le_rfl, hmax⟩
  | succ iterations ih =>
      intro grown hpos hmax henough
      unfold growTo
      by_cases hsmall : grown < next
      · rw [if_pos hsmall]
        dsimp only
        split
        · rw [if_neg (by omega)]
          obtain ⟨capacity, heq, hneeded, -, hbound⟩ :=
            @ih maxBytes (by omega) le_rfl (by omega)
          exact ⟨capacity, heq, hneeded, by omega, hbound⟩
        · rw [if_neg (by omega)]
          obtain ⟨capacity, heq, hneeded, hmore, hbound⟩ :=
            @ih (grown * 2) (by omega) (by omega) (by omega)
          exact ⟨capacity, heq, hneeded, by omega, hbound⟩
      · rw [if_neg hsmall]
        exact ⟨grown, rfl, by omega, le_rfl, hmax⟩

/-- A write that fits puts the bytes behind those that stay. -/
theorem setBytes_take {target source : Bytes} {offset : Nat}
    (h : offset + source.length ≤ target.length) :
    ∃ result, setBytes target source offset = some result ∧ result.length = target.length ∧
      result.take (offset + source.length) = target.take offset ++ source := by
  refine ⟨_, if_pos h, ?_, ?_⟩
  · simp only [List.length_append, List.length_take, List.length_drop]
    omega
  · have hlength : (target.take offset ++ source).length = offset + source.length := by
      rw [List.length_append, List.length_take]
      omega
    rw [List.take_append_of_le_length (by omega), List.take_of_length_le (by omega)]

/-! ## A run -/

/-- What the local variables are when these bytes have been taken. -/
structure Holds (maxBytes : Nat) (s : Collection) (processed : Bytes) : Prop where
  observed : s.observed = processed.length
  hashed : s.hashed = processed
  kept : s.buffer.take s.observed = processed
  positive : 0 < s.buffer.length
  bounded : s.buffer.length ≤ maxBytes

/-- The buffer is as long as what is kept in it. -/
theorem Holds.fits {maxBytes : Nat} {s : Collection} {processed : Bytes}
    (h : Holds maxBytes s processed) : s.observed ≤ s.buffer.length := by
  have hlength := congrArg List.length h.kept
  rw [List.length_take, ← h.observed] at hlength
  omega

/-- Before the first chunk. -/
theorem holds_start {maxBytes capacity : Nat} (hpos : 0 < capacity) (hmax : capacity ≤ maxBytes) :
    Holds maxBytes ⟨0, List.replicate capacity 0, []⟩ [] where
  observed := rfl
  hashed := rfl
  kept := List.take_zero
  positive := by rwa [List.length_replicate]
  bounded := by rwa [List.length_replicate]

/-- A chunk that stays within the maximum is written behind the others. -/
theorem collectFrom_cons {maxBytes : Nat} {throws : Bool} {done : Collection → Nat → CollectRun}
    {s : Collection} {processed : Bytes} (h : Holds maxBytes s processed) {chunk : Bytes}
    (hnext : (processed ++ chunk).length ≤ maxBytes) (consumed : Nat) (rest : List Bytes) :
    ∃ s', Holds maxBytes s' (processed ++ chunk) ∧
      collectFrom maxBytes throws done s consumed (chunk :: rest) =
        collectFrom maxBytes throws done s' (consumed + 1) rest := by
  have hfits := h.fits
  rw [List.length_append, ← h.observed] at hnext
  obtain ⟨capacity, hgrow, hneeded, hmore, hbound⟩ :=
    @growTo_grown _ _ hnext (s.observed + chunk.length) _ h.positive h.bounded (by omega)
  -- Either way the chunk is written into a buffer that starts with what was kept.
  obtain ⟨base, hbase, hroom, hkept, hsize⟩ : ∃ base,
      (if s.observed + chunk.length > s.buffer.length then
        setBytes (List.replicate capacity 0) (s.buffer.take s.observed) 0
      else some s.buffer) = some base ∧ s.observed + chunk.length ≤ base.length ∧
        base.take s.observed = processed ∧ base.length ≤ maxBytes := by
    by_cases hgrown : s.observed + chunk.length > s.buffer.length
    · have hlength : (s.buffer.take s.observed).length = s.observed := by
        rw [List.length_take]
        omega
      obtain ⟨base, hset, hsame, htake⟩ := @setBytes_take (List.replicate capacity 0)
        (s.buffer.take s.observed) 0
        (by rw [hlength, List.length_replicate]; omega)
      rw [List.length_replicate] at hsame
      rw [hlength, Nat.zero_add, List.take_zero, List.nil_append] at htake
      exact ⟨base, by rw [if_pos hgrown, hset], by omega, by rw [htake, h.kept], by omega⟩
    · exact ⟨s.buffer, if_neg hgrown, by omega, h.kept, h.bounded⟩
  obtain ⟨buffer, hset, hsame, htake⟩ := @setBytes_take _ chunk _ hroom
  refine ⟨⟨s.observed + chunk.length, buffer, s.hashed ++ chunk⟩, ⟨?_, ?_, ?_, ?_, ?_⟩, ?_⟩
  · rw [List.length_append, h.observed]
  · rw [h.hashed]
  · rw [htake, hkept]
  · have := h.positive
    dsimp only
    by_cases hgrown : s.observed + chunk.length > s.buffer.length
    · omega
    · rw [if_neg hgrown] at hbase
      cases hbase
      omega
  · dsimp only
    omega
  · rw [collectFrom]
    dsimp only
    rw [if_neg (by omega), hgrow]
    dsimp only
    rw [hbase, Option.bind_some, hset]

/-- Either all chunks are taken, or the last that is taken is the first that exceeds the
maximum. -/
theorem collectFrom_cases {maxBytes : Nat} {done : Collection → Nat → CollectRun}
    (chunks : List Bytes) :
    ∀ {s : Collection} {processed : Bytes} (consumed : Nat), Holds maxBytes s processed →
      processed.length ≤ maxBytes →
      ((processed ++ chunks.flatten).length ≤ maxBytes ∧
        ∃ s', Holds maxBytes s' (processed ++ chunks.flatten) ∧
          collectFrom maxBytes false done s consumed chunks =
            done s' (consumed + chunks.length)) ∨
      (maxBytes < (processed ++ chunks.flatten).length ∧
        ∃ first, collectFrom maxBytes false done s consumed chunks =
            ⟨.err .responseTooLarge, consumed + first, true⟩ ∧
          ∀ k, maxBytes < (processed ++ (chunks.take k).flatten).length → first ≤ k) := by
  induction chunks with
  | nil =>
      intro s processed consumed h hmax
      rw [List.flatten_nil, List.append_nil]
      exact .inl ⟨hmax, s, h, rfl⟩
  | cons chunk rest ih =>
      intro s processed consumed h hmax
      rw [List.flatten_cons, ← List.append_assoc]
      by_cases hnext : (processed ++ chunk).length ≤ maxBytes
      · obtain ⟨s', h', hstep⟩ := @collectFrom_cons _ false done _ _ h _ hnext
          consumed rest
        rw [hstep]
        rcases ih (consumed + 1) h' hnext with ⟨hall, last, hlast, heq⟩ |
          ⟨hmore, first, heq, hleast⟩
        · refine .inl ⟨hall, last, hlast, ?_⟩
          rw [heq, List.length_cons, Nat.add_assoc, Nat.add_comm 1]
        · refine .inr ⟨hmore, first + 1, ?_, ?_⟩
          · rw [heq, Nat.add_assoc, Nat.add_comm 1]
          · intro k hk
            cases k with
            | zero =>
                rw [List.take_zero, List.flatten_nil, List.append_nil] at hk
                omega
            | succ k =>
                rw [List.take_succ_cons, List.flatten_cons, ← List.append_assoc] at hk
                have := hleast k hk
                omega
      · refine .inr ⟨?_, 1, ?_, ?_⟩
        · rw [List.length_append]
          omega
        · rw [List.length_append, ← h.observed] at hnext
          rw [collectFrom]
          dsimp only
          rw [if_pos (by omega)]
        · intro k hk
          cases k with
          | zero =>
              rw [List.take_zero, List.flatten_nil, List.append_nil] at hk
              omega
          | succ k => omega

/-- What follows when the completion is what was seen. -/
theorem finish_truthful {sha256 : Bytes → JsString} {expectedSha256 : JsString}
    {expectedByteLength maxBytes : Nat} {s : Collection} {total : Bytes}
    (h : Holds maxBytes s total) (consumed : Nat) :
    finish sha256 expectedSha256 expectedByteLength (some ⟨total.length, sha256 total⟩) s consumed =
      if total.length = 0 then ⟨.err .responseEmpty, consumed, false⟩
      else if total.length = expectedByteLength ∧ sha256 total = expectedSha256 then
        ⟨.ok ⟨total, sha256 total, total.length⟩, consumed, false⟩
      else ⟨.err .hashMismatch, consumed, false⟩ := by
  have hfits := h.fits
  have hlength : (s.buffer.take s.observed).length = s.observed := by
    rw [List.length_take]
    omega
  obtain ⟨exact', hset, hsame, htake⟩ := @setBytes_take (List.replicate s.observed 0)
    (s.buffer.take s.observed) 0
    (by rw [hlength, List.length_replicate]; omega)
  rw [List.length_replicate] at hsame
  have hexact : exact' = total := by
    rw [hlength, Nat.zero_add, List.take_of_length_le hsame.le, List.take_zero, List.nil_append,
      h.kept] at htake
    exact htake
  unfold finish
  dsimp only
  rw [hset, hexact, h.hashed, h.observed]
  by_cases hempty : total.length = 0
  · rw [if_pos hempty, if_pos (Or.inl hempty)]
  · rw [if_neg hempty, if_neg (by omega)]
    by_cases hbytes : total.length = expectedByteLength
    · rw [if_neg (by omega)]
      by_cases hdigest : sha256 total = expectedSha256
      · have hsame : ¬(sha256 total ≠ expectedSha256 ∨ sha256 total ≠ expectedSha256) := by
          rw [or_self, not_not]
          exact hdigest
        have hboth : total.length = expectedByteLength ∧ sha256 total = expectedSha256 :=
          ⟨hbytes, hdigest⟩
        rw [if_neg hsame, if_pos hboth]
      · have hboth : ¬(total.length = expectedByteLength ∧ sha256 total = expectedSha256) :=
          fun both => hdigest both.2
        rw [if_pos (Or.inl hdigest), if_neg hboth]
    · have hboth : ¬(total.length = expectedByteLength ∧ sha256 total = expectedSha256) :=
        fun both => hbytes both.1
      rw [if_pos (Or.inl hbytes), if_neg hboth]

/-! ## A truthful stream -/

/-- A stream that ends normally and reports its own length and digest. -/
def truthfulResult (sha256 : Bytes → JsString) (chunks : List Bytes) :
    GetIntelligenceSnapshotResult :=
  ⟨chunks, false, some ⟨chunks.flatten.length, sha256 chunks.flatten⟩⟩

/-- `<=`. -/
def atMost : JsNumber → JsNumber → Bool
  | .finite x, .finite y => decide (x ≤ y)
  | .nan, _ | _, .nan => false
  | .infinity true, _ | _, .infinity false => true
  | _, _ => false

/-- A number that is a count. -/
def ofCount (count : Nat) : JsNumber := .finite (count : Int)

/-- The snapshot is the one that is expected. -/
structure Expected (sha256 : Bytes → JsString) (total : Bytes) (maxBytes : JsNumber)
    (expectedSha256 : JsString) (expectedByteLength : JsNumber)
    (declaredByteLength : Option JsNumber) : Prop where
  positive : atMost (ofCount 1) expectedByteLength = true
  bounded : atMost expectedByteLength maxBytes = true
  declared : declaredByteLength = none ∨ declaredByteLength = some expectedByteLength
  length : expectedByteLength = ofCount total.length
  digest : sha256 total = expectedSha256

/-- The snapshot that is returned. -/
def snapshotOf (sha256 : Bytes → JsString) (total : Bytes) : BoundedKevSnapshotBuffer :=
  ⟨total, sha256 total, total.length⟩

/-- A run is as it should be for these chunks: the snapshot is returned if and only if it is
accepted, every loop ends, no write fails, and no chunk is taken behind one that exceeds the
maximum. -/
structure Faithful (sha256 : Bytes → JsString) (chunks : List Bytes) (maxBytes : JsNumber)
    (accepted : Prop) (run : CollectRun) : Prop where
  value : ∀ value, run.outcome = .ok value ↔ accepted ∧ value = snapshotOf sha256 chunks.flatten
  ends : run.outcome ≠ .endless
  stored : run.outcome ≠ .err .snapshotStorageFailed
  consumed : ∀ k, atMost (ofCount (chunks.take k).flatten.length) maxBytes = false →
    run.consumed ≤ k

/-- A refusal is faithful if the snapshot is not accepted. -/
theorem faithful_err {sha256 : Bytes → JsString} {chunks : List Bytes} {maxBytes : JsNumber}
    {accepted : Prop} (hrefused : ¬accepted) {code : IntelligenceSafeFailureCode}
    (hcode : code ≠ .snapshotStorageFailed) {consumed : Nat} (cancelled : Bool)
    (hconsumed : ∀ k, atMost (ofCount (chunks.take k).flatten.length) maxBytes = false →
      consumed ≤ k) :
    Faithful sha256 chunks maxBytes accepted ⟨.err code, consumed, cancelled⟩ where
  value _ := ⟨fun h => CollectOutcome.noConfusion h, fun h => absurd h.1 hrefused⟩
  ends h := CollectOutcome.noConfusion h
  stored h := hcode (CollectOutcome.err.inj h)
  consumed := hconsumed

/-- A refusal before the first chunk. -/
theorem faithful_refused {sha256 : Bytes → JsString} {chunks : List Bytes} {maxBytes : JsNumber}
    {accepted : Prop} (hrefused : ¬accepted) {code : IntelligenceSafeFailureCode}
    (hcode : code ≠ .snapshotStorageFailed) :
    Faithful sha256 chunks maxBytes accepted ⟨.err code, 0, true⟩ :=
  faithful_err hrefused hcode true fun k _ => Nat.zero_le k

/-! ### Numbers -/

/-- A safe integer is the number it is. -/
theorem safeInteger_eq_some {number : JsNumber} {value : Int} :
    safeInteger number = some value ↔
      number = .finite value ∧ value.natAbs ≤ maxSafeInteger := by
  constructor
  · intro h
    cases number with
    | finite rational =>
        rw [safeInteger] at h
        split at h
        · next hsafe =>
            cases h
            exact ⟨congrArg JsNumber.finite ((Rat.den_eq_one_iff rational).1 hsafe.1).symm, hsafe.2⟩
        · exact absurd h nofun
    | nan => exact absurd h nofun
    | infinity negative => exact absurd h nofun
  · rintro ⟨rfl, hsafe⟩
    exact if_pos ⟨rfl, hsafe⟩

/-- Integers are compared as they are. -/
theorem atMost_finite {x y : Int} : atMost (.finite x) (.finite y) = true ↔ x ≤ y := by
  rw [atMost, decide_eq_true_iff, Rat.intCast_le_intCast]

/-- A count that is not at most an integer is greater. -/
theorem atMost_ofCount_eq_false {count : Nat} {maxBytes : Int} :
    atMost (ofCount count) (.finite maxBytes) = false ↔ maxBytes < count := by
  rw [← Bool.not_eq_true, ofCount, atMost_finite, Int.not_le]

/-- A count up to a safe integer is one. -/
theorem safeInteger_ofCount {count : Nat} {maxBytes : Int}
    (hmax : maxBytes.natAbs ≤ maxSafeInteger)
    (h : atMost (ofCount count) (.finite maxBytes) = true) :
    safeInteger (ofCount count) = some (count : Int) := by
  have hle : (count : Int) ≤ maxBytes := atMost_finite.1 h
  exact safeInteger_eq_some.2 ⟨rfl, by omega⟩

/-- What is expected, when the numbers are integers. -/
theorem expected_iff {sha256 : Bytes → JsString} {total : Bytes} {maxBytes length : Int}
    {expectedSha256 : JsString} {declaredByteLength : Option JsNumber} :
    Expected sha256 total (.finite maxBytes) expectedSha256 (.finite length) declaredByteLength ↔
      1 ≤ length ∧ length ≤ maxBytes ∧
        (declaredByteLength = none ∨ declaredByteLength = some (.finite length)) ∧
        total.length = length.toNat ∧ sha256 total = expectedSha256 := by
  constructor
  · intro h
    have hpositive : (1 : Int) ≤ length := atMost_finite.1 h.positive
    have hlength : length = (total.length : Int) :=
      Rat.intCast_inj.1 (JsNumber.finite.inj h.length)
    exact ⟨hpositive, atMost_finite.1 h.bounded, h.declared, by omega, h.digest⟩
  · rintro ⟨hpositive, hbounded, hdeclared, hlength, hdigest⟩
    have hcount : length = (total.length : Int) := by omega
    exact ⟨atMost_finite.2 hpositive, atMost_finite.2 hbounded, hdeclared,
      by rw [hcount]; rfl, hdigest⟩

/-! ### The call -/

/-- The loop, with what follows on it. -/
theorem faithful_collectFrom {sha256 : Bytes → JsString} {chunks : List Bytes}
    {expectedSha256 : JsString} {maxBytes expectedByteLength capacity : Nat}
    (hexpected : 1 ≤ expectedByteLength) (hbound : expectedByteLength ≤ maxBytes)
    (hpos : 0 < capacity) (hcapacity : capacity ≤ maxBytes) {accepted : Prop}
    (haccepted : accepted ↔
      chunks.flatten.length = expectedByteLength ∧ sha256 chunks.flatten = expectedSha256) :
    Faithful sha256 chunks (.finite (maxBytes : Int)) accepted
      (collectFrom maxBytes (truthfulResult sha256 chunks).throws
        (finish sha256 expectedSha256 expectedByteLength
          (truthfulResult sha256 chunks).completion)
        ⟨0, List.replicate capacity 0, []⟩ 0 (truthfulResult sha256 chunks).body) := by
  dsimp only [truthfulResult]
  rcases @collectFrom_cases _ (finish sha256 expectedSha256 expectedByteLength
      (some ⟨chunks.flatten.length, sha256 chunks.flatten⟩)) chunks _ _ 0
      (holds_start hpos hcapacity) (Nat.zero_le maxBytes) with
    ⟨hall, last, hlast, heq⟩ | ⟨hmore, first, heq, hleast⟩
  · rw [List.nil_append] at hall hlast
    -- No first part of the chunks exceeds the maximum.
    have hnever : ∀ k, atMost (ofCount (chunks.take k).flatten.length)
        (.finite (maxBytes : Int)) = false → 0 + chunks.length ≤ k := by
      intro k hk
      have hpart : (chunks.take k).flatten.length ≤ chunks.flatten.length := by
        have hsplit := congrArg (fun parts => parts.flatten.length) (chunks.take_append_drop k)
        rw [List.flatten_append, List.length_append] at hsplit
        omega
      have := atMost_ofCount_eq_false.1 hk
      omega
    rw [heq, finish_truthful hlast]
    split
    · next hempty =>
        exact faithful_err (fun h => by have := (haccepted.1 h).1; omega)
          IntelligenceSafeFailureCode.noConfusion false hnever
    · split
      · next hempty hboth =>
          refine ⟨fun value => ?_, CollectOutcome.noConfusion, CollectOutcome.noConfusion, hnever⟩
          rw [CollectOutcome.ok.injEq]
          exact ⟨fun h => ⟨haccepted.2 hboth, h.symm⟩, fun h => h.2.symm⟩
      · next hempty hboth =>
          exact faithful_err (fun h => hboth (haccepted.1 h))
            IntelligenceSafeFailureCode.noConfusion false hnever
  · rw [List.nil_append] at hmore
    rw [heq]
    refine faithful_err (fun h => ?_) IntelligenceSafeFailureCode.noConfusion true ?_
    · have := (haccepted.1 h).1
      omega
    · intro k hk
      rw [Nat.zero_add]
      have hmany := atMost_ofCount_eq_false.1 hk
      exact hleast k (by rw [List.nil_append]; omega)

/-- With a stream that ends normally and reports its own length and digest truthfully, the
snapshot is returned if and only if the maximum is a safe integer and the snapshot is the one
that is expected; it is then the concatenation of the chunks.  Every loop ends, no write falls
outside the buffer, and no chunk is taken behind one that takes the total above the maximum. -/
theorem collectBoundedKevSnapshotBuffer_truthful (sha256 : Bytes → JsString)
    (chunks : List Bytes) (maxBytes : JsNumber) (expectedSha256 : JsString)
    (expectedByteLength : JsNumber) (declaredByteLength : Option JsNumber) :
    Faithful sha256 chunks maxBytes
      ((safeInteger maxBytes).isSome ∧
        Expected sha256 chunks.flatten maxBytes expectedSha256 expectedByteLength
          declaredByteLength)
      (collectBoundedKevSnapshotBuffer sha256 ⟨truthfulResult sha256 chunks, maxBytes,
        expectedSha256, expectedByteLength, declaredByteLength⟩) := by
  unfold collectBoundedKevSnapshotBuffer
  dsimp only
  cases hmax : safeInteger maxBytes with
  | none =>
      exact faithful_refused (fun h => absurd h.1 Bool.false_ne_true)
        IntelligenceSafeFailureCode.noConfusion
  | some max =>
      obtain ⟨rfl, hsafe⟩ := safeInteger_eq_some.1 hmax
      cases hlength : safeInteger expectedByteLength with
      | none =>
          refine faithful_refused (fun h => ?_) IntelligenceSafeFailureCode.noConfusion
          have hbound := h.2.bounded
          rw [h.2.length] at hbound hlength
          rw [safeInteger_ofCount hsafe hbound] at hlength
          exact absurd hlength nofun
      | some length =>
          obtain ⟨rfl, -⟩ := safeInteger_eq_some.1 hlength
          dsimp only
          rw [expected_iff]
          split
          · next hguard =>
              refine faithful_refused (fun h => ?_) IntelligenceSafeFailureCode.noConfusion
              obtain ⟨-, hpositive, hbounded, -⟩ := h
              omega
          · next hguard =>
              have hnat : ((max.toNat : Nat) : Int) = max := by omega
              cases declaredByteLength with
              | none =>
                  rw [← hnat]
                  refine faithful_collectFrom (by omega) (by omega) ?_ (Nat.min_le_right _ _) ?_
                  · rw [initialAbsentLengthCapacity]
                    omega
                  · exact ⟨fun h => h.2.2.2.2, fun h => ⟨rfl, by omega, by omega, .inl rfl, h⟩⟩
              | some declared =>
                  dsimp only
                  cases hdeclared : safeInteger declared with
                  | none =>
                      refine faithful_refused (fun h => ?_) IntelligenceSafeFailureCode.noConfusion
                      rcases h.2.2.2.1 with hnone | hsome
                      · exact absurd hnone (Option.some_ne_none _)
                      · cases hsome
                        rw [hlength] at hdeclared
                        exact absurd hdeclared (Option.some_ne_none _)
                  | some count =>
                      obtain ⟨rfl, -⟩ := safeInteger_eq_some.1 hdeclared
                      have hsame : (some (JsNumber.finite count) = none ∨
                          some (JsNumber.finite count) = some (.finite length)) ↔
                            count = length := by
                        rw [or_iff_right (Option.some_ne_none _), Option.some_inj,
                          JsNumber.finite.injEq, Rat.intCast_inj]
                      rw [hsame]
                      dsimp only
                      split
                      · refine faithful_refused (fun h => ?_)
                          IntelligenceSafeFailureCode.noConfusion
                        obtain ⟨-, hpositive, hbounded, hequal, -⟩ := h
                        omega
                      · split
                        · next hdiffers =>
                            exact faithful_refused (fun h => hdiffers h.2.2.2.1)
                              IntelligenceSafeFailureCode.noConfusion
                        · next hequal =>
                            rw [← hnat]
                            refine faithful_collectFrom (by omega) (by omega) (by omega)
                              (by omega) ?_
                            exact ⟨fun h => h.2.2.2.2,
                              fun h => ⟨rfl, by omega, by omega, by omega, h⟩⟩

/-- A maximum that is not a safe integer refuses a snapshot that is the expected one. -/
theorem unbounded_maximum_refused :
    ¬∀ (sha256 : Bytes → JsString) (chunks : List Bytes) (maxBytes : JsNumber)
        (expectedSha256 : JsString) (expectedByteLength : JsNumber)
        (declaredByteLength : Option JsNumber),
      (∃ value, (collectBoundedKevSnapshotBuffer sha256 ⟨truthfulResult sha256 chunks, maxBytes,
          expectedSha256, expectedByteLength, declaredByteLength⟩).outcome = .ok value) ↔
        Expected sha256 chunks.flatten maxBytes expectedSha256 expectedByteLength
          declaredByteLength := by
  intro h
  obtain ⟨value, hvalue⟩ := (h (fun _ => js "d") [[1]] (.infinity false) (js "d") (ofCount 1)
    none).2 ⟨rfl, rfl, .inl rfl, rfl, rfl⟩
  have hrefused : (collectBoundedKevSnapshotBuffer (fun _ => js "d")
      ⟨truthfulResult (fun _ => js "d") [[1]], .infinity false, js "d", ofCount 1, none⟩).outcome =
        .err .responseTooLarge := rfl
  rw [hrefused] at hvalue
  exact CollectOutcome.noConfusion hvalue

end PatchPilot.Intelligence
