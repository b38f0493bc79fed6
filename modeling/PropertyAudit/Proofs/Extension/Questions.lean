import PropertyAudit.Proofs.Initialization.Unassigned
import PropertyAudit.Proofs.PropertyTable.Evidence

/-! Which questions are put to extensions, and that the answers are those of asking all of them. For reads,
for writes and for initialization each, the extensions are asked in turn up to the first that affirms. -/
namespace PropertyAudit

namespace Extension

def affirmed (extensions : List Extension) (name : String) (property : Declaration) : Usage :=
  ⟨extensions.any (·.alwaysRead name property), extensions.any (·.alwaysWritten name property)⟩

namespace Question

def index : Question → Nat
  | .read index | .written index | .initialized index => index

def answer (question : Question) (extension : Extension) : String → Declaration → Bool :=
  match question with
  | .read _ => extension.alwaysRead
  | .written _ => extension.alwaysWritten
  | .initialized _ => extension.initialized

def isOpen (extensions : List Extension) (name : String) (property : Declaration)
    (question : Question) : Bool :=
  (extensions.take question.index).all (!question.answer · name property)

end Question

/-- The questions about reads and writes to `count` extensions from `first` on. -/
def readsAndWrites (first count : Nat) : List Question :=
  (List.range' first count).flatMap fun index => [.read index, .written index]

def initializations (first count : Nat) : List Question :=
  (List.range' first count).map .initialized

variable {name : String} {property : Declaration} {question : Question} {asked : List Extension}

theorem affirmed_concat (asked : List Extension) (extension : Extension) :
    affirmed (asked ++ [extension]) name property =
      ⟨(affirmed asked name property).read || extension.alwaysRead name property,
        (affirmed asked name property).written || extension.alwaysWritten name property⟩ := by
  simp [affirmed]

theorem affirmed_append (extensions more : List Extension) :
    affirmed (extensions ++ more) name property =
      (affirmed extensions name property).merge (affirmed more name property) := by
  simp [affirmed, Usage.merge]

theorem resolve_eq_affirmed (extensions : List Extension) :
    (resolve extensions name property).1 = affirmed extensions name property := by
  apply Usage.ext_shows
  intro kind
  rw [resolve, shows_resolveFrom, Usage.shows_none, Bool.false_or]
  cases kind <;> rfl

/-- The question right behind the extensions already asked is open if these all deny. -/
theorem isOpen_next (rest : List Extension) (next : question.index = asked.length) :
    question.isOpen (asked ++ rest) name property = !asked.any (question.answer · name property) := by
  rw [Question.isOpen, next, List.take_left, List.not_any_eq_all_not]

/-- A question is closed for good once some extension affirms. -/
theorem isOpen_behind (rest : List Extension) (behind : asked.length ≤ question.index)
    (answered : asked.any (question.answer · name property)) :
    question.isOpen (asked ++ rest) name property = false := by
  obtain ⟨extension, among, affirms⟩ := List.any_eq_true.mp answered
  have earlier : extension ∈ (asked ++ rest).take question.index := by
    rw [List.take_append, List.take_of_length_le behind]
    exact List.mem_append_left _ among
  rw [Question.isOpen, List.all_eq_false]
  exact ⟨extension, earlier, by simp [affirms]⟩

theorem filter_readsAndWrites (complete : (affirmed asked name property).isComplete)
    (rest : List Extension) (count : Nat) :
    (readsAndWrites asked.length count).filter (·.isOpen (asked ++ rest) name property) = [] := by
  obtain ⟨read, written⟩ := Bool.and_eq_true_iff.mp complete
  rw [List.filter_eq_nil_iff]
  intro question among
  obtain ⟨index, inRange, same⟩ := List.mem_flatMap.mp among
  have behind := (List.mem_range'_1.mp inRange).1
  rw [Bool.not_eq_true]
  simp only [List.mem_cons, List.not_mem_nil, or_false] at same
  rcases same with rfl | rfl
  · exact isOpen_behind rest behind read
  · exact isOpen_behind rest behind written

theorem filter_initializations (affirms : asked.any (·.initialized name property))
    (rest : List Extension) (count : Nat) :
    (initializations asked.length count).filter (·.isOpen (asked ++ rest) name property) = [] := by
  rw [List.filter_eq_nil_iff]
  intro question among
  obtain ⟨index, inRange, rfl⟩ := List.mem_map.mp among
  rw [Bool.not_eq_true]
  exact isOpen_behind rest (List.mem_range'_1.mp inRange).1 affirms

/-- Where what was found so far is what the extensions already asked affirm, the others are asked just the
questions that these leave open. -/
theorem questions_resolveFrom (asked extensions : List Extension) :
    (resolveFrom name property asked.length (affirmed asked name property) extensions).2 =
      (readsAndWrites asked.length extensions.length).filter
        (·.isOpen (asked ++ extensions) name property) := by
  induction extensions generalizing asked with
  | nil => rfl
  | cons extension extensions ih =>
    have read : (Question.read asked.length).isOpen (asked ++ extension :: extensions) name property =
        !(affirmed asked name property).read := isOpen_next _ rfl
    have written : (Question.written asked.length).isOpen (asked ++ extension :: extensions) name
        property = !(affirmed asked name property).written := isOpen_next _ rfl
    have here : [Question.read asked.length, .written asked.length].filter
        (·.isOpen (asked ++ extension :: extensions) name property) =
        (if (affirmed asked name property).read then [] else [.read asked.length]) ++
          (if (affirmed asked name property).written then [] else [.written asked.length]) := by
      rw [List.filter_cons, List.filter_cons, read, written, List.filter_nil]
      by_cases (affirmed asked name property).read <;>
        by_cases (affirmed asked name property).written <;> simp_all
    have split : readsAndWrites asked.length (extension :: extensions).length =
        [.read asked.length, .written asked.length] ++
          readsAndWrites (asked ++ [extension]).length extensions.length := by
      rw [List.length_append]
      rfl
    rw [split, List.filter_append, here, resolveFrom, ← affirmed_concat,
      List.append_cons asked extension extensions]
    split
    · next complete => rw [filter_readsAndWrites complete, List.append_nil]
    · rw [← ih, List.length_append, List.length_singleton]

theorem questions_initializedFrom (asked extensions : List Extension)
    (denied : asked.any (·.initialized name property) = false) :
    (initializedFrom name property asked.length extensions).2 =
      (initializations asked.length extensions.length).filter
        (·.isOpen (asked ++ extensions) name property) := by
  induction extensions generalizing asked with
  | nil => rfl
  | cons extension extensions ih =>
    have here : (Question.initialized asked.length).isOpen (asked ++ extension :: extensions) name
        property := (isOpen_next _ rfl).trans (congrArg _ denied)
    have split : initializations asked.length (extension :: extensions).length =
        .initialized asked.length ::
          initializations (asked ++ [extension]).length extensions.length := by
      rw [List.length_append]
      rfl
    have next : (asked ++ [extension]).any (·.initialized name property) =
        extension.initialized name property := by
      simp [denied]
    rw [split, List.filter_cons, if_pos here, initializedFrom, List.append_cons]
    split
    · next affirms => rw [filter_initializations (next.trans affirms)]
    · next denies =>
      rw [← ih _ (next.trans (Bool.eq_false_iff.mpr denies)), List.length_append,
        List.length_singleton]

/-- Each answer is that of asking every extension, and the extensions of two lists taken together affirm what
either list affirms. The questions put are those to which no earlier extension has said yes, read before
written for each extension. Comments that already show reads and writes leave nothing to ask, and the
evidence before any access is that of comments, extensions and declaration together. -/
theorem resolve_asks_up_to_first_yes (extensions : List Extension) (name : String)
    (property : Declaration) :
    (∀ kind, (resolve extensions name property).1.shows kind ↔
      ∃ extension ∈ extensions, extension.affirms kind name property) ∧
    (∀ more, (resolve (extensions ++ more) name property).1 =
      (resolve extensions name property).1.merge (resolve more name property).1) ∧
    (resolve extensions name property).2 =
      ((List.range extensions.length).flatMap fun index => [.read index, .written index]).filter
        (·.isOpen extensions name property) ∧
    ((isInitialized extensions name property).1 ↔
      ∃ extension ∈ extensions, extension.initialized name property) ∧
    (isInitialized extensions name property).2 =
      ((List.range extensions.length).map .initialized).filter
        (·.isOpen extensions name property) ∧
    ∀ options,
      (∀ kind, (PropertyTable.initialUsage options extensions name property).1.shows kind ↔
        property.IsTagged options kind ∨
          (∃ extension ∈ extensions, extension.affirms kind name property) ∨
          kind = .write ∧ property.assigns) ∧
      ((∀ kind, property.IsTagged options kind) →
        (PropertyTable.initialUsage options extensions name property).2 = []) ∧
      ((∃ kind, ¬property.IsTagged options kind) →
        (PropertyTable.initialUsage options extensions name property).2 =
          (resolve extensions name property).2) := by
  refine ⟨fun kind => shows_resolve, fun more => ?_, ?_, ?_, ?_, fun options =>
    ⟨fun kind => PropertyTable.shows_initialUsage, fun tagged => ?_, fun untagged => ?_⟩⟩
  · simp only [resolve_eq_affirmed, affirmed_append]
  · rw [List.range_eq_range']
    exact questions_resolveFrom [] extensions
  · rw [isInitialized, initializedFrom_eq, List.any_eq_true]
  · rw [List.range_eq_range']
    exact questions_initializedFrom [] extensions rfl
  · have complete : (PropertyTable.tagUsage options property).isComplete :=
      Bool.and_eq_true_iff.mpr ⟨PropertyTable.shows_tagUsage.mpr (tagged .read),
        PropertyTable.shows_tagUsage.mpr (tagged .write)⟩
    simp only [PropertyTable.initialUsage, complete, if_true]
  · obtain ⟨kind, untagged⟩ := untagged
    have incomplete : ¬(PropertyTable.tagUsage options property).isComplete := fun complete =>
      untagged (PropertyTable.shows_tagUsage.mp (Usage.shows_of_isComplete complete kind))
    simp only [PropertyTable.initialUsage, incomplete]
    rfl

/-- The first of three extensions affirms writes and the second one reads and initialization, so the third is
asked nothing. With tags for both in the comment none is asked. -/
theorem resolve_asks_up_to_first_yes_of_three :
    let writer : Extension := ⟨fun _ _ => false, fun _ _ => true, fun _ _ => false⟩
    let reader : Extension := ⟨fun _ _ => true, fun _ _ => false, fun _ _ => true⟩
    let both : Extension := ⟨fun _ _ => true, fun _ _ => true, fun _ _ => true⟩
    let property : Declaration :=
      ⟨"a", .isPrivate, false, false, false, some "/** @api @inject */", [], 1⟩
    let options : Options := { Options.default with
      alwaysReadTags := ["@api"], alwaysWrittenTags := ["@inject"] }
    let extensions := [writer, reader, both]
    (resolve extensions "Foo" property).2 = [.read 0, .written 0, .read 1] ∧
      (isInitialized extensions "Foo" property).2 = [.initialized 0, .initialized 1] ∧
      (∀ kind, property.IsTagged options kind) ∧
      (PropertyTable.initialUsage options extensions "Foo" property).2 = [] ∧
      ¬property.IsTagged .default .write ∧
      (PropertyTable.initialUsage .default extensions "Foo" property).2 =
        [.read 0, .written 0, .read 1] := by
  intro writer reader both property options extensions
  obtain ⟨-, -, asked, -, askedInitialized, before⟩ :=
    resolve_asks_up_to_first_yes extensions "Foo" property
  have tagged : ∀ kind, property.IsTagged options kind := by
    intro kind
    apply PropertyTable.shows_tagUsage.mp
    cases kind <;> decide +kernel
  have untagged : ¬property.IsTagged .default .write := by
    rw [← PropertyTable.shows_tagUsage]
    decide +kernel
  refine ⟨asked, askedInitialized, tagged, (before options).2.1 tagged, untagged, ?_⟩
  exact ((before .default).2.2 ⟨.write, untagged⟩).trans asked

end Extension
end PropertyAudit
