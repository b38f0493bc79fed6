import PropertyAudit.Proofs.Json.Source
import PropertyAudit.Proofs.Text.Characters

/-! Bytes that encode no character, and readers to which they make no difference. Mending puts
something else in their place that a string may hold as long as nothing looks at it; a steady reader
that takes a value from the bytes takes the same value from the mended ones.

The place of such a byte can be taken by an escape that stands for no character either, and the other
way round: so mending leads from any bytes to a text and back. -/
namespace PropertyAudit.Json

open Reader

variable {α β : Type} {byte other : UInt8} {bytes others rest : List UInt8}

def isForeign (byte : UInt8) : Bool :=
  0x20 < byte && !(Text.bytes "\"\\[]\x7b\x7d:,+-.0123456789eEnultrfas").contains byte

def loneSurrogate : List UInt8 := Text.bytes "?\\uDC00"

/-- Bytes that no string holds, before those given: one that begins no character, or a surrogate. -/
inductive Spoilt : List UInt8 → List UInt8 → Prop where
  | byte {byte : UInt8} {rest : List UInt8} :
      (∀ c, ¬String.utf8EncodeChar c <+: byte :: rest) → Spoilt [byte] rest
  | surrogate {rest : List UInt8} : Spoilt loneSurrogate rest

/-- Bytes that may stand in a string nothing looks at. -/
inductive Harmless : List UInt8 → Prop where
  | byte {byte : UInt8} : isForeign byte → Harmless [byte]
  | surrogate : Harmless loneSurrogate

/-- The second bytes are the first with harmless ones in place of spoilt ones. Whatever encodes no
character is spoilt; an escaped surrogate may also stay, being characters. -/
inductive Mends : List UInt8 → List UInt8 → Prop where
  | nil : Mends [] []
  | character {bytes others : List UInt8} (c : Char) : Mends bytes others →
      Mends (String.utf8EncodeChar c ++ bytes) (String.utf8EncodeChar c ++ others)
  | patch {spoilt harmless bytes others : List UInt8} : Spoilt spoilt bytes → Harmless harmless →
      Mends bytes others → Mends (spoilt ++ bytes) (harmless ++ others)

/-! ### Foreign bytes -/

theorem isForeign_iff : isForeign byte ↔
    0x20 < byte ∧ byte ∉ Text.bytes "\"\\[]\x7b\x7d:,+-.0123456789eEnultrfas" := by
  simp [isForeign]

theorem of_isForeign (foreign : isForeign byte) :
    digit? byte = none ∧ isBlank byte = false ∧ isExponentMark byte = false ∧ IsPlain byte := by
  obtain ⟨printed, apart⟩ := isForeign_iff.mp foreign
  refine ⟨?_, ?_, ?_, fun same => apart (same ▸ by decide), fun same => apart (same ▸ by decide),
    UInt8.not_lt.mpr (UInt8.le_of_lt printed)⟩
  · have digits : Text.bytes "0123456789" ⊆
        Text.bytes "\"\\[]\x7b\x7d:,+-.0123456789eEnultrfas" := of_decide_eq_true rfl
    rw [← Option.not_isSome_iff_eq_none]
    exact fun isDigit => apart (digits (mem_digits_of_digit? byte isDigit))
  · rw [Bool.eq_false_iff]
    intro blank
    simp only [isBlank, Bool.or_eq_true, beq_iff_eq] at blank
    rcases blank with ((rfl | rfl) | rfl) | rfl <;> exact absurd printed (by decide)
  · rw [Bool.eq_false_iff]
    intro mark
    simp only [isExponentMark, Bool.or_eq_true, beq_iff_eq] at mark
    rcases mark with rfl | rfl <;> exact apart (by decide)

theorem beq_of_isForeign (foreign : isForeign byte) (syntactic : isForeign other = false) :
    (byte == other) = false := by
  rw [beq_eq_false_iff_ne]
  rintro rfl
  rw [foreign] at syntactic
  cases syntactic

theorem isForeign_of_le (high : 0x80 ≤ byte) : isForeign byte := by
  have basic : (Text.bytes "\"\\[]\x7b\x7d:,+-.0123456789eEnultrfas").all (· < 0x80) := by decide
  refine isForeign_iff.mpr ⟨UInt8.lt_of_lt_of_le (by decide) high, fun among => ?_⟩
  exact UInt8.not_lt.mpr high (of_decide_eq_true (List.all_eq_true.mp basic byte among))

def Keeps (byte : UInt8) : Prop := byte < 0x80 ∧ byte ≠ ascii '?'

theorem keeps_of_isForeign_eq_false (syntactic : isForeign byte = false) : Keeps byte := by
  constructor
  · refine UInt8.not_le.mp fun high => ?_
    rw [isForeign_of_le high] at syntactic
    cases syntactic
  · rintro rfl
    revert syntactic
    decide

theorem exists_utf8EncodeChar_eq_singleton (basic : byte < 0x80) :
    ∃ c, String.utf8EncodeChar c = [byte] := by
  have code : (Char.ofUInt8 byte).toNat = byte.toNat := UInt8.toNat_toUInt32 byte
  refine ⟨Char.ofUInt8 byte, ?_⟩
  rw [utf8EncodeChar_of_lt (code ▸ UInt8.lt_iff_toNat_lt.mp basic), ascii, code]
  exact congrArg (fun b => [b]) UInt8.ofNat_toNat

/-! ### Mended bytes -/

theorem bytes_surrogate : Text.bytes "\\uDC00" = [0x5C, 0x75, 0x44, 0x43, 0x30, 0x30] := by decide

theorem loneSurrogate_eq :
    loneSurrogate = String.utf8EncodeChar '?' ++ Text.bytes "\\uDC00" := by decide

theorem Spoilt.byte_le {byte : UInt8} {rest : List UInt8} (spoilt : Spoilt [byte] rest) :
    0x80 ≤ byte := by
  cases spoilt with
  | byte nothing =>
    refine UInt8.not_lt.mp fun basic => ?_
    obtain ⟨c, encoded⟩ := exists_utf8EncodeChar_eq_singleton basic
    exact nothing c (by simp [encoded])

theorem Harmless.exists_cons {harmless : List UInt8} (fits : Harmless harmless) :
    ∃ byte more, harmless = byte :: more ∧ isForeign byte := by
  cases fits with
  | byte foreign => exact ⟨_, [], rfl, foreign⟩
  | surrogate => exact ⟨ascii '?', Text.bytes "\\uDC00", loneSurrogate_eq, by decide⟩

/-- The place of spoilt bytes is open to harmless ones only, themselves among them. -/
theorem Spoilt.harmless {spoilt rest : List UInt8} (bad : Spoilt spoilt rest) : Harmless spoilt := by
  cases bad with
  | byte nothing => exact .byte (isForeign_of_le (Spoilt.byte nothing).byte_le)
  | surrogate => exact .surrogate

namespace Mends

/-- A character stays where it is, but for the question mark before a surrogate. -/
theorem character_cases {c : Char} (mends : Mends (String.utf8EncodeChar c ++ bytes) others) :
    (∃ rest, others = String.utf8EncodeChar c ++ rest ∧ Mends bytes rest) ∨
      c = '?' ∧ ∃ more, bytes = Text.bytes "\\uDC00" ++ more := by
  generalize same : String.utf8EncodeChar c ++ bytes = source at mends
  have starts : String.utf8EncodeChar c <+: source := ⟨bytes, same⟩
  cases mends with
  | nil => exact absurd (List.append_eq_nil_iff.mp same).1 String.utf8EncodeChar_ne_nil
  | character d mends =>
    obtain rfl := Text.eq_of_utf8EncodeChar_prefix starts (List.prefix_append _ _)
    obtain rfl := List.append_cancel_left same
    exact .inl ⟨_, rfl, mends⟩
  | patch spoilt _ _ =>
    cases spoilt with
    | byte nothing => exact absurd starts (nothing c)
    | surrogate =>
      rw [loneSurrogate_eq, List.append_assoc] at same starts
      obtain rfl := Text.eq_of_utf8EncodeChar_prefix starts (List.prefix_append _ _)
      exact .inr ⟨rfl, _, List.append_cancel_left same⟩

theorem kept (mends : Mends (byte :: bytes) others) (keeps : Keeps byte) :
    ∃ rest, others = byte :: rest ∧ Mends bytes rest := by
  obtain ⟨c, encoded⟩ := exists_utf8EncodeChar_eq_singleton keeps.1
  rw [← List.singleton_append, ← encoded] at mends
  rcases mends.character_cases with same | ⟨rfl, -⟩
  · simpa only [encoded, List.singleton_append] using same
  · rw [utf8EncodeChar_of_lt (by decide)] at encoded
    exact absurd (List.cons.inj encoded).1.symm keeps.2

theorem syntactic (mends : Mends (byte :: bytes) others) (syntactic : isForeign byte = false) :
    ∃ rest, others = byte :: rest ∧ Mends bytes rest :=
  mends.kept (keeps_of_isForeign_eq_false syntactic)

theorem eq_nil (mends : Mends [] others) : others = [] := by
  generalize ended : [] = source at mends
  cases mends with
  | nil => rfl
  | character c _ => exact absurd (List.append_eq_nil_iff.mp ended.symm).1 String.utf8EncodeChar_ne_nil
  | patch spoilt _ _ =>
    obtain ⟨_, _, rfl, -⟩ := spoilt.harmless.exists_cons
    cases ended

/-- A next byte is the same, or a foreign one in place of a foreign one. -/
theorem head (mends : Mends (byte :: bytes) others) :
    ∃ other rest, others = other :: rest ∧ (other = byte ∨ isForeign byte ∧ isForeign other) := by
  generalize same : byte :: bytes = source at mends
  cases mends with
  | nil => cases same
  | character c _ =>
    obtain ⟨first, more, encoded, -, -⟩ := Text.utf8EncodeChar_eq_cons c
    rw [encoded, List.cons_append] at same
    rw [encoded, List.cons_append]
    exact ⟨first, _, rfl, .inl (List.cons.inj same).1.symm⟩
  | patch spoilt fits _ =>
    obtain ⟨first, _, rfl, foreign⟩ := spoilt.harmless.exists_cons
    obtain ⟨instead, more, rfl, alsoForeign⟩ := fits.exists_cons
    rw [List.cons_append] at same
    exact ⟨instead, _, rfl, .inr ⟨(List.cons.inj same).1 ▸ foreign, alsoForeign⟩⟩

/-- Whatever is spoilt is harmless in its own place. -/
theorem refl (bytes : List UInt8) : Mends bytes bytes := by
  induction bytes using Text.characters_induction with
  | nil => exact .nil
  | character c rest ih => exact .character c ih
  | other byte rest nothing ih =>
    have spoilt : Spoilt [byte] rest := .byte nothing
    exact .patch spoilt spoilt.harmless ih

/-- Any bytes can be mended to a text, and the text to the bytes. -/
theorem exists_text (bytes : List UInt8) :
    ∃ text, Mends bytes (Text.bytes text) ∧ Mends (Text.bytes text) bytes := by
  induction bytes using Text.characters_induction with
  | nil => exact ⟨"", .nil, .nil⟩
  | character c rest ih =>
    obtain ⟨text, forth, back⟩ := ih
    refine ⟨String.singleton c ++ text, ?_⟩
    have encoded : Text.bytes (String.singleton c) = String.utf8EncodeChar c := by simp [Text.bytes]
    rw [Text.bytes_append, encoded]
    exact ⟨.character c forth, .character c back⟩
  | other byte rest nothing ih =>
    obtain ⟨text, forth, back⟩ := ih
    have spoilt : Spoilt [byte] rest := .byte nothing
    refine ⟨"?\\uDC00" ++ text, ?_⟩
    rw [Text.bytes_append]
    exact ⟨.patch spoilt .surrogate forth, .patch .surrogate spoilt.harmless back⟩

/-- A run of bytes that are not foreign is the same in mended bytes. -/
theorem run {inside : UInt8 → Bool} (outside : ∀ byte, isForeign byte → inside byte = false)
    (mends : Mends bytes others) :
    others.takeWhile inside = bytes.takeWhile inside ∧
      Mends (bytes.dropWhile inside) (others.dropWhile inside) := by
  induction bytes generalizing others with
  | nil =>
    obtain rfl := mends.eq_nil
    exact ⟨rfl, .nil⟩
  | cons byte bytes ih =>
    by_cases here : inside byte
    · have syntactic : isForeign byte = false := by
        refine Bool.eq_false_iff.mpr fun foreign => ?_
        rw [outside byte foreign] at here
        cases here
      obtain ⟨rest, rfl, onward⟩ := mends.syntactic syntactic
      simpa [here] using ih onward
    · obtain ⟨other, rest, rfl, same⟩ := mends.head
      have alsoNot : inside other = false := by
        rcases same with rfl | ⟨-, foreign⟩
        · simpa using here
        · exact outside other foreign
      simpa [here, alsoNot] using mends

theorem dropBlanks (mends : Mends bytes others) :
    Mends (dropBlanks bytes) (dropBlanks others) :=
  (mends.run fun _ foreign => (of_isForeign foreign).2.1).2

end Mends

/-! ### Readers -/

structure Leaves (others rest after : List UInt8) : Prop where
  mends : Mends rest after
  shrinks : after.length ≤ others.length

/-- Whether a value that the reader takes from some bytes, the first of which is the given one, is taken
from mended ones too. -/
def SteadyAt (byte? : Option UInt8) (reader : Reader α) : Prop :=
  ∀ bytes others value rest, Mends bytes others → bytes.head? = byte? →
    reader bytes = .ok (value, rest) →
    ∃ after, reader others = .ok (value, after) ∧ Leaves others rest after

/-- Whether a value that the reader takes from some bytes is taken from mended ones too. -/
def Steady (reader : Reader α) : Prop := ∀ byte?, SteadyAt byte? reader

theorem Steady.run {reader : Reader α} {value : α} (steady : Steady reader) (mends : Mends bytes others)
    (done : reader bytes = .ok (value, rest)) :
    ∃ after, reader others = .ok (value, after) ∧ Leaves others rest after :=
  steady bytes.head? bytes others value rest mends rfl done

theorem steady_of_run {reader : Reader α}
    (run : ∀ bytes others value rest, Mends bytes others → reader bytes = .ok (value, rest) →
      ∃ after, reader others = .ok (value, after) ∧ Leaves others rest after) : Steady reader :=
  fun _ bytes others value rest mends _ done => run bytes others value rest mends done

/-- A reader that takes nothing from any bytes. -/
theorem steady_of_error {reader : Reader α} (fails : ∀ bytes, ∃ fault, reader bytes = .error fault) :
    Steady reader := by
  intro _ bytes _ _ _ _ _ done
  obtain ⟨fault, failed⟩ := fails bytes
  rw [failed] at done
  cases done

theorem steady_pure (value : α) : Steady (pure value : Reader α) := by
  intro _ bytes others result rest mends _ done
  cases done
  exact ⟨others, rfl, mends, Nat.le_refl _⟩

theorem steady_fail (cause : Cause) : Steady (fail cause : Reader α) :=
  steady_of_error fun _ => ⟨_, rfl⟩

theorem steady_failNext (cause : Cause) : Steady (failNext cause : Reader α) :=
  steady_of_error fun _ => ⟨_, rfl⟩

theorem steady_raise (cause : Cause) : Steady (raise cause : Reader α) :=
  steady_of_error fun _ => ⟨_, rfl⟩

theorem steady_raiseError (result : Except Cause α) : Steady (raiseError result) := by
  cases result with
  | ok value => exact steady_pure value
  | error cause => exact steady_raise cause

theorem of_run_bind {first : Reader α} {next : α → Reader β} {result : β}
    (done : (first >>= next) bytes = .ok (result, rest)) :
    ∃ value middle, first bytes = .ok (value, middle) ∧ next value middle = .ok (result, rest) := by
  cases start : first bytes with
  | error fault =>
    rw [run_bind_error start] at done
    cases done
  | ok taken =>
    obtain ⟨value, middle⟩ := taken
    rw [run_bind start] at done
    exact ⟨value, middle, rfl, done⟩

theorem of_run_map {reader : Reader α} {convert : α → β} {result : β}
    (done : (convert <$> reader) bytes = .ok (result, rest)) :
    ∃ value, reader bytes = .ok (value, rest) ∧ convert value = result := by
  cases start : reader bytes with
  | error fault =>
    simp [Functor.map, StateT.map, start, Except.map] at done
  | ok taken =>
    obtain ⟨value, middle⟩ := taken
    rw [run_map convert start] at done
    cases done
    exact ⟨value, rfl, rfl⟩

theorem SteadyAt.bind {byte? : Option UInt8} {first : Reader α} {next : α → Reader β}
    (steadyFirst : SteadyAt byte? first) (steadyNext : ∀ value, Steady (next value)) :
    SteadyAt byte? (first >>= next) := by
  intro bytes others result rest mends here done
  obtain ⟨value, middle, start, finish⟩ := of_run_bind done
  obtain ⟨after, alsoStart, left⟩ := steadyFirst _ _ _ _ mends here start
  obtain ⟨last, alsoFinish, onward⟩ := (steadyNext value).run left.mends finish
  exact ⟨last, (run_bind alsoStart).trans alsoFinish, onward.mends,
    Nat.le_trans onward.shrinks left.shrinks⟩

theorem Steady.bind {first : Reader α} {next : α → Reader β} (steadyFirst : Steady first)
    (steadyNext : ∀ value, Steady (next value)) : Steady (first >>= next) :=
  fun byte? => (steadyFirst byte?).bind steadyNext

theorem SteadyAt.map {byte? : Option UInt8} {reader : Reader α} (steady : SteadyAt byte? reader)
    (convert : α → β) : SteadyAt byte? (convert <$> reader) := by
  intro bytes others result rest mends here done
  obtain ⟨value, start, rfl⟩ := of_run_map done
  obtain ⟨after, alsoStart, left⟩ := steady _ _ _ _ mends here start
  exact ⟨after, run_map convert alsoStart, left⟩

theorem Steady.map {reader : Reader α} (steady : Steady reader) (convert : α → β) :
    Steady (convert <$> reader) :=
  fun byte? => (steady byte?).map convert

/-- A byte that can be skipped: a foreign one might begin more than itself. -/
def Skips (byte? : Option UInt8) : Prop := ∀ byte ∈ byte?, isForeign byte = false

theorem skips_some (syntactic : ¬isForeign byte) : Skips (some byte) := by
  intro next isNext
  obtain rfl := Option.some.inj isNext
  simpa using syntactic

theorem Skips.skip {byte? : Option UInt8} (skips : Skips byte?) : SteadyAt byte? skip := by
  intro bytes others value rest mends here done
  cases done
  cases bytes with
  | nil =>
    obtain rfl := mends.eq_nil
    exact ⟨[], rfl, .nil, Nat.le_refl _⟩
  | cons byte bytes =>
    obtain ⟨after, rfl, onward⟩ := mends.syntactic (skips byte here.symm)
    exact ⟨after, rfl, onward, Nat.le_succ _⟩

theorem Skips.skip_bind {byte? : Option UInt8} {next : Unit → Reader α} (skips : Skips byte?)
    (steady : Steady (next ())) : SteadyAt byte? (Reader.skip >>= next) :=
  skips.skip.bind fun _ => steady

/-- What a steady reader does by the next byte is the same for all foreign bytes. -/
theorem Steady.peek {next : Option UInt8 → Reader α} (foreigner : Reader α)
    (foreign : ∀ byte, isForeign byte → next (some byte) = foreigner) (steady : Steady foreigner)
    (steadyNext : ∀ byte?, Skips byte? → SteadyAt byte? (next byte?)) : Steady (next? >>= next) := by
  intro _ bytes others value rest mends _ done
  rw [run_next?] at done ⊢
  cases bytes with
  | nil =>
    obtain rfl := mends.eq_nil
    exact steadyNext none (by simp [Skips]) _ _ _ _ mends rfl done
  | cons byte bytes =>
    obtain ⟨other, after, rfl, same⟩ := mends.head
    by_cases isForeign byte
    · next isForeignByte =>
      have isForeignOther : isForeign other := by
        rcases same with rfl | ⟨-, alsoForeign⟩
        · exact isForeignByte
        · exact alsoForeign
      rw [List.head?_cons, foreign _ isForeignByte] at done
      rw [List.head?_cons, foreign _ isForeignOther]
      exact steady.run mends done
    · next syntactic =>
      obtain rfl : other = byte := by
        rcases same with same | ⟨alsoForeign, -⟩
        · exact same
        · exact absurd alsoForeign syntactic
      exact steadyNext (some other) (skips_some syntactic) _ _ _ _ mends rfl done

theorem length_dropBlanks (bytes : List UInt8) : (dropBlanks bytes).length ≤ bytes.length :=
  (List.dropWhile_suffix _).length_le

theorem Steady.peekToken {next : Option UInt8 → Reader α} (foreigner : Reader α)
    (foreign : ∀ byte, isForeign byte → next (some byte) = foreigner) (steady : Steady foreigner)
    (steadyNext : ∀ byte?, Skips byte? → SteadyAt byte? (next byte?)) :
    Steady (nextToken? >>= next) := by
  intro _ bytes others value rest mends _ done
  obtain ⟨after, alsoDone, left⟩ :=
    (Steady.peek foreigner foreign steady steadyNext).run mends.dropBlanks done
  exact ⟨after, alsoDone, left.mends, Nat.le_trans left.shrinks (length_dropBlanks others)⟩

theorem SteadyAt.shrinks {reader : Reader α} {value : α} (steady : SteadyAt bytes.head? reader)
    (done : reader bytes = .ok (value, rest)) : rest.length ≤ bytes.length := by
  obtain ⟨after, alsoDone, left⟩ := steady bytes bytes value rest (Mends.refl bytes) rfl done
  rw [done] at alsoDone
  cases alsoDone
  exact left.shrinks

theorem Steady.shrinks {reader : Reader α} {value : α} (steady : Steady reader)
    (done : reader bytes = .ok (value, rest)) : rest.length ≤ bytes.length :=
  (steady bytes.head?).shrinks done

/-- A reader whose fuel is measured by the bytes left, if more fuel makes no difference. -/
theorem Steady.fueled (reader : Nat → Reader α) {spare : Nat}
    (same : ∀ fuel more bytes, bytes.length + spare ≤ fuel → fuel ≤ more →
      reader fuel bytes = reader more bytes)
    (steady : ∀ fuel, Steady (reader fuel)) :
    Steady fun bytes => reader (bytes.length + spare) bytes := by
  refine steady_of_run fun bytes others value rest mends done => ?_
  rw [same _ _ bytes (Nat.le_refl _) (Nat.le_add_right _ (others.length + spare))] at done
  rw [same _ _ others (Nat.le_refl _) (Nat.le_add_left _ (bytes.length + spare))]
  exact (steady _).run mends done

end PropertyAudit.Json
