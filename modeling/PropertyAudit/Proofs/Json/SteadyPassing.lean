import PropertyAudit.Json.Decoder
import PropertyAudit.Proofs.Json.SteadyNumbers
import PropertyAudit.Proofs.Json.SteadyStrings

/-! Passing over values is steady. This is where it matters: strings in these values may hold bytes that
encode no character, and the fuel to pass over them is told by how many bytes are left. -/
namespace PropertyAudit.Json

open Reader Decoder

variable {byte : UInt8} {byte? : Option UInt8} {bytes rest : List UInt8}

/-! ### From one value to the next -/

def beforeValue (frame : Frame) (frames : List Frame) : Reader (List Frame) :=
  match frame with
  | .array => pure (frame :: frames)
  | .object => do
    match ← nextToken? with
    | none => failNext .endInObject
    | some byte =>
      if byte == ascii '"' then skip else failNext .nameNotString
    (fun rest => passString rest.length rest)
    match ← nextToken? with
    | none => failNext .endInObject
    | some byte =>
      if byte == ascii ':' then skip else failNext .expectedColon
    pure (frame :: frames)

def closing : Frame → UInt8
  | .array => ascii ']'
  | .object => ascii '\x7d'

def atValue (acceptComma : Bool) (frame : Frame) (frames : List Frame) : Reader (List Frame) :=
  if acceptComma then
    match frame with
    | .array => failNext .expectedCommaOrBracket
    | .object => failNext .expectedCommaOrBrace
  else beforeValue frame frames

theorem passToValue_cons (fuel : Nat) (acceptComma : Bool) (frame : Frame) (frames : List Frame) :
    passToValue (fuel + 1) acceptComma (frame :: frames) = (do
      match ← nextToken?, frame with
      | none, .array => failNext .endInArray
      | none, .object => failNext .endInObject
      | some byte, frame =>
        if byte == ascii ',' && acceptComma then do
          skip
          beforeValue frame frames
        else if byte == closing frame then do
          skip
          passToValue fuel true frames
        else atValue acceptComma frame frames) := by
  conv => lhs; unfold passToValue
  refine congrArg (nextToken? >>= ·) (funext fun byte? => ?_)
  cases frame <;> cases byte? <;> rfl

theorem steady_beforeValue (frame : Frame) (frames : List Frame) :
    Steady (beforeValue frame frames) := by
  unfold beforeValue
  split
  · exact steady_pure _
  · extract_lets done named
    have steadyNamed (taken : Unit) : Steady (named taken) := by
      refine steady_passString.bind fun _ =>
        Steady.peekToken (failNext .expectedColon >>= done) ?_ ?_ fun byte? skips => ?_
      · intro byte foreign
        simp (disch := decide) only [beq_of_isForeign foreign, Bool.false_eq_true, if_false]
      · exact (steady_failNext _).bind fun _ => steady_pure _
      · split
        · exact (steady_failNext _).bind (fun _ => steady_pure _) _
        · split
          · exact skips.skip_bind (steady_pure _)
          · exact (steady_failNext _).bind (fun _ => steady_pure _) _
    refine Steady.peekToken (failNext .nameNotString >>= named) ?_
      ((steady_failNext _).bind steadyNamed) fun byte? skips => ?_
    · intro byte foreign
      simp (disch := decide) only [beq_of_isForeign foreign, Bool.false_eq_true, if_false]
    · split
      · exact (steady_failNext _).bind steadyNamed _
      · split
        · exact skips.skip.bind steadyNamed
        · exact (steady_failNext _).bind steadyNamed _

theorem steady_atValue (acceptComma : Bool) (frame : Frame) (frames : List Frame) :
    Steady (atValue acceptComma frame frames) := by
  unfold atValue
  split
  · split <;> exact steady_failNext _
  · exact steady_beforeValue _ _

theorem steady_passToValue (fuel : Nat) (acceptComma : Bool) (frames : List Frame) :
    Steady (passToValue fuel acceptComma frames) := by
  induction fuel generalizing acceptComma frames with
  | zero => cases frames <;> exact steady_fail _
  | succ fuel ih =>
    cases frames with
    | nil => exact steady_pure _
    | cons frame frames =>
      rw [passToValue_cons]
      refine Steady.peekToken _ ?_ (steady_atValue acceptComma frame frames) fun byte? skips => ?_
      · intro byte foreign
        cases frame <;>
          simp (disch := decide) only [closing, beq_of_isForeign foreign, Bool.false_and,
            Bool.false_eq_true, if_false]
      · split
        · exact steady_failNext _ _
        · exact steady_failNext _ _
        · split
          · exact skips.skip_bind (steady_beforeValue _ _)
          · split
            · exact skips.skip_bind (ih _ _)
            · exact steady_atValue _ _ _ _

theorem length_of_dropBlanks_eq_cons {next : UInt8} {more : List UInt8}
    (blank : dropBlanks bytes = next :: more) : more.length < bytes.length := by
  have shorter := length_dropBlanks bytes
  rwa [blank] at shorter

/-- Each closing bracket takes a byte, so more fuel than bytes left makes no difference. -/
theorem passToValue_fuel {fuel more : Nat} (acceptComma : Bool) (frames : List Frame)
    (enough : bytes.length < fuel) (most : fuel ≤ more) :
    passToValue fuel acceptComma frames bytes = passToValue more acceptComma frames bytes := by
  induction frames generalizing fuel more acceptComma bytes with
  | nil =>
    obtain ⟨fuel, rfl⟩ := Nat.exists_eq_add_of_le' (Nat.zero_lt_of_lt enough)
    obtain ⟨more, rfl⟩ := Nat.exists_eq_add_of_le' (Nat.le_of_add_left_le most)
    rfl
  | cons frame frames ih =>
    obtain ⟨fuel, rfl⟩ := Nat.exists_eq_add_of_le' (Nat.zero_lt_of_lt enough)
    obtain ⟨more, rfl⟩ := Nat.exists_eq_add_of_le' (Nat.le_of_add_left_le most)
    rw [passToValue_cons, passToValue_cons, run_nextToken?, run_nextToken?]
    cases blank : dropBlanks bytes with
    | nil => cases frame <;> rfl
    | cons next tail =>
      have shorter := length_of_dropBlanks_eq_cons blank
      have same : passToValue fuel true frames tail = passToValue more true frames tail :=
        ih true (Nat.lt_of_lt_of_le shorter (Nat.le_of_lt_succ enough)) (Nat.le_of_succ_le_succ most)
      dsimp only [List.head?_cons]
      split
      · rfl
      · split
        · exact same
        · rfl

/-- Where a comma or a bracket has to come, at least that is taken. -/
theorem passToValue_shrinks {fuel : Nat} {frame : Frame} {frames after : List Frame}
    (done : passToValue fuel true (frame :: frames) bytes = .ok (after, rest)) :
    rest.length < bytes.length := by
  cases fuel with
  | zero => cases done
  | succ fuel =>
    rw [passToValue_cons, run_nextToken?] at done
    cases blank : dropBlanks bytes with
    | nil =>
      rw [blank] at done
      cases frame <;> cases done
    | cons next tail =>
      refine Nat.lt_of_le_of_lt ?_ (length_of_dropBlanks_eq_cons blank)
      rw [blank] at done
      dsimp only [List.head?_cons] at done
      split at done
      · exact (steady_beforeValue frame frames).shrinks done
      · split at done
        · exact (steady_passToValue fuel true frames).shrinks done
        · cases frame <;> cases done

/-! ### Values -/

theorem steadyAt_passScalar (skips : Skips byte?) (byte : UInt8) : SteadyAt byte? (passScalar byte) := by
  unfold passScalar
  split
  · exact skips.skip_bind (steady_word (by decide))
  · split
    · exact skips.skip_bind (steady_word (by decide))
    · split
      · exact skips.skip_bind (steady_word (by decide))
      · split
        · exact skips.skip_bind steady_passNumber
        · split
          · exact steady_passNumber _
          · split
            · exact skips.skip_bind steady_passString
            · exact steady_failNext _ _

theorem passScalar_of_isForeign (foreign : isForeign byte) :
    passScalar byte = failNext .expectedValue := by
  simp (disch := decide) only [passScalar, beq_of_isForeign foreign, isDigit_of_isForeign byte foreign,
    Bool.false_eq_true, if_false]

theorem passScalar_shrinks {value : Unit} (done : passScalar byte (byte :: bytes) = .ok (value, rest)) :
    rest.length ≤ bytes.length + 1 := by
  by_cases foreign : isForeign byte
  · rw [passScalar_of_isForeign foreign] at done
    cases done
  · have steady : SteadyAt (byte :: bytes).head? (passScalar byte) :=
      steadyAt_passScalar (skips_some foreign) byte
    exact steady.shrinks done

def passOnward (fuel : Nat) (frames : List Frame) : Reader Unit :=
  if frames.isEmpty then pure () else passValueIn fuel frames

theorem passValueIn_succ (fuel : Nat) (frames : List Frame) :
    passValueIn (fuel + 1) frames = (do
      match ← nextToken? with
      | none => failNext .endInValue
      | some byte =>
        if byte == ascii '[' then do
          skip
          passToValue (fuel + 1) false (.array :: frames) >>= passOnward fuel
        else if byte == ascii '\x7b' then do
          skip
          passToValue (fuel + 1) false (.object :: frames) >>= passOnward fuel
        else do
          passScalar byte
          passToValue (fuel + 1) true frames >>= passOnward fuel) := rfl

theorem steady_passValueIn (fuel : Nat) (frames : List Frame) : Steady (passValueIn fuel frames) := by
  induction fuel generalizing frames with
  | zero => exact steady_fail _
  | succ fuel ih =>
    have steadyOnward (acceptComma : Bool) (frames : List Frame) :
        Steady (passToValue (fuel + 1) acceptComma frames >>= passOnward fuel) := by
      refine (steady_passToValue _ _ _).bind fun frames => ?_
      unfold passOnward
      split
      · exact steady_pure _
      · exact ih frames
    rw [passValueIn_succ]
    refine Steady.peekToken
      (do failNext .expectedValue; passToValue (fuel + 1) true frames >>= passOnward fuel) ?_
      ((steady_failNext _).bind fun _ => steadyOnward true frames) fun byte? skips => ?_
    · intro byte foreign
      simp (disch := decide) only [beq_of_isForeign foreign, passScalar_of_isForeign foreign,
        Bool.false_eq_true, if_false]
    · split
      · exact steady_failNext _ _
      · split
        · exact skips.skip_bind (steadyOnward _ _)
        · split
          · exact skips.skip_bind (steadyOnward _ _)
          · exact (steadyAt_passScalar skips _).bind fun _ => steadyOnward _ _

/-- Each value takes a byte, be it the one behind it, so more fuel than bytes left makes no difference. -/
theorem passValueIn_fuel {fuel more : Nat} (frames : List Frame) (enough : bytes.length < fuel)
    (most : fuel ≤ more) : passValueIn fuel frames bytes = passValueIn more frames bytes := by
  induction fuel generalizing more frames bytes with
  | zero => exact absurd enough (Nat.not_lt_zero _)
  | succ fuel ih =>
    obtain ⟨more, rfl⟩ := Nat.exists_eq_add_of_le' (Nat.le_of_add_left_le most)
    have onward (acceptComma : Bool) (open' : List Frame) (later : List UInt8)
        (fewer : later.length ≤ bytes.length) (takes : ∀ after rest,
          passToValue (fuel + 1) acceptComma open' later = .ok (after, rest) → after ≠ [] →
            rest.length < bytes.length) :
        (passToValue (fuel + 1) acceptComma open' >>= passOnward fuel) later =
          (passToValue (more + 1) acceptComma open' >>= passOnward more) later := by
      have same := passToValue_fuel acceptComma open' (Nat.lt_of_le_of_lt fewer enough) most
      cases read : passToValue (fuel + 1) acceptComma open' later with
      | error fault => rw [run_bind_error read, run_bind_error (same ▸ read)]
      | ok taken =>
        obtain ⟨after, rest⟩ := taken
        rw [run_bind read, run_bind (same ▸ read)]
        cases after with
        | nil => rfl
        | cons frame frames =>
          exact ih _ (Nat.lt_of_lt_of_le (takes _ _ read (List.cons_ne_nil _ _))
            (Nat.le_of_lt_succ enough)) (Nat.le_of_succ_le_succ most)
    rw [passValueIn_succ, passValueIn_succ, run_nextToken?, run_nextToken?]
    cases blank : dropBlanks bytes with
    | nil => rfl
    | cons next tail =>
      have shorter := length_of_dropBlanks_eq_cons blank
      have bracket (frame : Frame) := onward false (frame :: frames) tail (Nat.le_of_lt shorter)
        fun after rest read _ =>
          Nat.lt_of_le_of_lt ((steady_passToValue _ _ _).shrinks read) shorter
      dsimp only [List.head?_cons]
      split
      · exact bracket .array
      · split
        · exact bracket .object
        · cases read : passScalar next (next :: tail) with
          | error fault => rw [run_bind_error read, run_bind_error read]
          | ok taken =>
            obtain ⟨_, later⟩ := taken
            rw [run_bind read, run_bind read]
            have fewer : later.length ≤ bytes.length :=
              Nat.le_trans (passScalar_shrinks read) (Nat.succ_le_of_lt shorter)
            refine onward true frames later fewer fun after rest read open' => ?_
            cases frames with
            | nil =>
              cases read
              exact absurd rfl open'
            | cons frame frames => exact Nat.lt_of_lt_of_le (passToValue_shrinks read) fewer

theorem steady_passValue : Steady passValue :=
  Steady.fueled (passValueIn · []) (fun _ _ _ => passValueIn_fuel []) fun fuel => steady_passValueIn fuel []

end PropertyAudit.Json
