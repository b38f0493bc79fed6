import PropertyAudit.Proofs.FactFile.InsertionOrder
import PropertyAudit.Proofs.FactFile.TaggedFacts
import PropertyAudit.Proofs.FactFile.Undecodable

/-! Fact files whose texts differ in the order of members, in members that are ignored or in members that have
their defaults: they hold the same facts. -/
namespace PropertyAudit

open Json
open Json.Decoder (RecordField record)

variable {α β σ : Type} {depth : Nat} {shape : Shape}

/-! ### Scalars and words -/

theorem follows_scalar {expected : String} {accept : Found → Option (Except Cause α)}
    (noArray : accepted accept .array = none) (noObject : accepted accept .object = none) :
    Follows (made (Decoder.scalar expected accept depth)) shape :=
  Follows.of_scalars (fun _ => (yields_scalar noArray noObject).made_eq.trans noArray)
    fun _ => (yields_scalar noArray noObject).made_eq.trans noObject

theorem follows_optional {expected : String} {accept : Found → Option (Except Cause α)}
    (noArray : accepted accept .array = none) (noObject : accepted accept .object = none) :
    Follows (made (Decoder.optional (Decoder.scalar expected accept) depth)) shape := by
  have decided : Decided (Decoder.scalar expected accept) := decided_scalar noArray noObject
  refine Follows.of_scalars (fun items => ?_) fun members => ?_
  · rw [(yields_optional decided).made_eq, (yields_scalar noArray noObject).made_eq]
    exact congrArg (Option.map some) noArray
  · rw [(yields_optional decided).made_eq, (yields_scalar noArray noObject).made_eq]
    exact congrArg (Option.map some) noObject

/-- A word as the name of a member stands alone, and the member is null. -/
theorem eq_singleton_of_chosenMember {cases : List (String × α)} {members : List (Content × Source)} {case : α}
    (chosen : chosenMember cases members depth = some case) :
    ∃ name token, members = [(name, .scalar token)] := by
  unfold chosenMember at chosen
  split at chosen
  · next name value =>
    obtain ⟨_, -, onward⟩ := Option.bind_eq_some_iff.mp chosen
    obtain ⟨_, read, -⟩ := Option.map_eq_some_iff.mp onward
    cases value with
    | scalar token => exact ⟨name, token, rfl⟩
    | array items => cases (yields_scalar rfl rfl).made_eq.symm.trans read
    | object members => cases (yields_scalar rfl rfl).made_eq.symm.trans read
  · cases chosen

theorem follows_choice (cases : List (String × α)) : Follows (made (Decoder.choice cases depth)) .plain := by
  intro source other value within _ _ read
  cases within with
  | here revision =>
    rw [(yields_choice_object cases _).made_eq] at read ⊢
    obtain ⟨lower, rfl, chosen⟩ := descend_eq_some_iff.mp read
    obtain ⟨name, token, rfl⟩ := eq_singleton_of_chosenMember chosen
    rw [List.perm_singleton.mp revision.perm.symm]
    exact read
  | item => cases (yields_choice_array cases _).made_eq.symm.trans read
  | member _ _ position within =>
    rw [(yields_choice_object cases _).made_eq] at read
    obtain ⟨lower, rfl, chosen⟩ := descend_eq_some_iff.mp read
    obtain ⟨name, token, alone⟩ := eq_singleton_of_chosenMember chosen
    rcases List.append_eq_singleton_iff.mp alone with ⟨-, same⟩ | ⟨-, same⟩
    · cases same
      cases within
    · cases same

/-! ### Lists and maps of strings -/

theorem follows_string : Follows (made (Decoder.string depth)) shape := follows_scalar rfl rfl

theorem decided_string : Decided Decoder.string := decided_scalar rfl rfl

theorem decided_strings : Decided strings := decided_list decided_string

theorem follows_strings : Follows (made (strings depth)) .plain :=
  follows_list decided_string fun _ _ _ _ => follows_string

namespace Assignments

def storeMethod (depth : Nat) (name : String) (source : Source) (assignments : Assignments) :
    Option Assignments :=
  (made (strings depth) source).map (assignments.insert name ·)

theorem foldMembers_storeMethod (members : List (Content × Source)) (taken : List (String × List String)) :
    (foldMembers (storeEntry (strings depth)) members taken).map (fun taken => ofList taken.reverse) =
      foldMembers (storeMethod depth) members (ofList taken.reverse) := by
  induction members generalizing taken with
  | nil => rfl
  | cons member members ih =>
    rw [foldMembers_cons, foldMembers_cons]
    cases member.1.string? with
    | none => rfl
    | some name =>
      simp only [Option.bind_some, storeEntry, storeMethod]
      cases made (strings depth) member.2 with
      | none => rfl
      | some properties =>
        refine (ih _).trans ?_
        rw [List.reverse_cons, ofList_append_singleton, ofList_filter_insert]
        rfl

theorem decided_decoder : Decided decoder :=
  fun depth source => ((decided_map decided_strings depth source).map ofList).made

/-- The methods are entered one after another. -/
theorem made_decoder (source : Source) : made (decoder depth) source = source.structured
    (fun _ _ => none) (fun members depth => foldMembers (storeMethod depth) members .empty) depth := by
  have read : made (decoder depth) source = (made (Decoder.map strings depth) source).map ofList :=
    ((decided_map decided_strings depth source).map ofList).made_eq
  rw [read, (yields_map decided_strings).made_eq]
  cases source with
  | scalar token => rfl
  | array items => cases depth <;> rfl
  | object members =>
    cases depth with
    | zero => rfl
    | succ depth =>
      refine (Option.map_map ..).trans ?_
      exact foldMembers_storeMethod members []

theorem follows : Follows (made (decoder depth)) .plain := by
  intro source other value within distinct others read
  rw [made_decoder] at read ⊢
  cases within with
  | here revision =>
    obtain ⟨lower, rfl, fold⟩ := descend_eq_some_iff.mp read
    refine (foldMembers_perm (fun name later source value state different => ?_)
      (Source.distinct_object.mp distinct).1 revision.perm _).symm.trans fold
    unfold storeMethod
    cases made (strings lower) source <;> cases made (strings lower) value <;> simp [insert_comm different]
  | item => cases descend_none.symm.trans read
  | member _ _ position within =>
    obtain ⟨lower, rfl, fold⟩ := descend_eq_some_iff.mp read
    refine foldMembers_replace (fun name state stored named stores => ?_) fold
    obtain ⟨properties, read, rfl⟩ := Option.map_eq_some_iff.mp stores
    obtain rfl := Shape.member_plain position
    exact Option.map_eq_some_iff.mpr ⟨properties, follows_strings _ _ _ within (distinct_member distinct)
      (distinct_member others) read, rfl⟩

end Assignments

/-! ### Defaults -/

def Stands (standard : Shape.Default) (item : Decoder β) (value : β) : Prop :=
  ∀ source depth found, standard.Is source → made (item depth) source = some found → found = value

theorem stands_null {item : Decoder β} (decided : Decided item) : Stands .null (Decoder.optional item) none := by
  rintro source depth found rfl read
  rw [(yields_optional decided).made_eq] at read
  cases read
  rfl

theorem stands_no : Stands .no Decoder.boolean false := by
  rintro source depth found rfl read
  have accepted : made (Decoder.boolean depth) (.scalar (.boolean false)) = some false :=
    (yields_scalar rfl rfl).made_eq
  cases accepted.symm.trans read
  rfl

theorem stands_word {cases : List (String × β)} {text : String} {value : β}
    (listed : cases.lookup text = some value) : Stands (.word text) (Decoder.choice cases) value := by
  rintro source depth found ⟨content, spelled, rfl | rfl⟩ read
  · rw [(yields_choice_scalar cases _).made_eq, made_caseName, made_value_scalar, Token.found?, spelled] at read
    exact (Option.some.inj (listed.symm.trans read)).symm
  · rw [(yields_choice_object cases _).made_eq] at read
    obtain ⟨lower, -, chosen⟩ := descend_eq_some_iff.mp read
    obtain ⟨case, named, onward⟩ := Option.bind_eq_some_iff.mp chosen
    rw [made_caseName, made_value_scalar, Token.found?, spelled] at named
    obtain ⟨_, -, rfl⟩ := Option.map_eq_some_iff.mp onward
    exact (Option.some.inj (listed.symm.trans named)).symm

theorem stands_noItems {item : Decoder β} (decided : Decided item) : Stands .noItems (Decoder.list item) [] := by
  rintro source depth found rfl read
  rw [(yields_list decided).made_eq] at read
  obtain ⟨lower, -, all⟩ := descend_eq_some_iff.mp read
  cases all
  rfl

theorem stands_noMembers : Stands .noMembers Assignments.decoder .empty := by
  rintro source depth found rfl read
  rw [Assignments.made_decoder] at read
  obtain ⟨lower, -, fold⟩ := descend_eq_some_iff.mp read
  cases fold
  rfl

/-! ### Fields -/

section Fields

variable {item : Decoder β} {name : String} {get : σ → Option β} {set : β → σ → σ} {isOptional : Bool}
  {finish : σ → Except Cause α}

theorem follows_field (follows : ∀ depth, Follows (made (item depth)) shape) (depth : Nat) :
    Follows (made ((RecordField.of name item get set isOptional).read depth)) shape := by
  have same : made ((RecordField.of name item get set isOptional).read depth) =
      fun source => (made (item depth) source).map set :=
    funext fun source => made_field name get set isOptional
  rw [same]
  exact (follows depth).map set

theorem fits_required (follows : ∀ depth, Follows (made (item depth)) shape) :
    Fits finish (RecordField.of name item get set isOptional) ⟨name, shape, none⟩ where
  name_eq := rfl
  follows := follows_field follows
  idle := nofun

theorem fits_default {standard : Shape.Default} {value : β}
    (follows : ∀ depth, Follows (made (item depth)) shape) (stands : Stands standard item value)
    (idle : ∀ state, get state = none → finish (set value state) = finish state) :
    Fits finish (RecordField.of name item get set isOptional) ⟨name, shape, some standard⟩ where
  name_eq := rfl
  follows := follows_field follows
  idle := by
    rintro _ source depth store state ⟨⟩ isDefault read notGiven
    rw [made_field] at read
    obtain ⟨found, taken, rfl⟩ := Option.map_eq_some_iff.mp read
    obtain rfl := stands source depth found isDefault taken
    exact idle state (Option.isSome_eq_false_iff.mp notGiven |> Option.isNone_iff_eq_none.mp)

/-- Fields are stored apart if each leaves what the other stands for as it is. -/
theorem apart_of {γ : Type} {other : Decoder γ} {later : String} {getOther : σ → Option γ}
    {setOther : γ → σ → σ} {otherIsOptional : Bool}
    (commute : ∀ value more state, setOther more (set value state) = set value (setOther more state))
    (left : ∀ more state, get (setOther more state) = get state)
    (right : ∀ value state, getOther (set value state) = getOther state) :
    Apart (RecordField.of name item get set isOptional)
      (RecordField.of later other getOther setOther otherIsOptional) where
  commute here there state := by
    rw [made_field] at here
    rw [made_field] at there
    obtain ⟨value, -, rfl⟩ := Option.map_eq_some_iff.mp here
    obtain ⟨more, -, rfl⟩ := Option.map_eq_some_iff.mp there
    exact commute value more state
  isGiven_left there state := by
    rw [made_field] at there
    obtain ⟨more, -, rfl⟩ := Option.map_eq_some_iff.mp there
    exact congrArg Option.isSome (left more state)
  isGiven_right here state := by
    rw [made_field] at here
    obtain ⟨value, -, rfl⟩ := Option.map_eq_some_iff.mp here
    exact congrArg Option.isSome (right value state)

end Fields

/-! ### Records -/

namespace Hierarchy.Entry

theorem decided_fields : ∀ field ∈ fields, Decided field.read := by
  simp only [fields, List.forall_mem_cons, List.not_mem_nil, false_imp_iff, implies_true, and_true]
  exact ⟨decided_field decided_string, decided_field decided_strings⟩

theorem apart_fields : fields.Pairwise Apart := by
  simp only [fields, List.pairwise_cons, List.forall_mem_cons, List.not_mem_nil, false_imp_iff, implies_true,
    and_true, List.Pairwise.nil]
  exact apart_of (fun _ _ _ => rfl) (fun _ _ => rfl) fun _ _ => rfl

theorem decided_decoder : Decided decoder := decided_record decided_fields _ _

theorem follows (depth : Nat) : Follows (made (decoder depth)) .entry := by
  refine follows_record (.cons (fits_required fun _ => follows_string) (.cons
    (fits_default (fun _ => follows_strings) (stands_noItems decided_string) fun state absent => ?_) .nil)) rfl
    (by decide) decided_fields apart_fields
  cases state
  cases absent
  rfl

end Hierarchy.Entry

namespace Declaration

theorem decided_fields : ∀ field ∈ fields, Decided field.read := by
  simp only [fields, List.forall_mem_cons, List.not_mem_nil, false_imp_iff, implies_true, and_true]
  exact ⟨decided_field decided_string, decided_field (decided_choice _), decided_field (decided_scalar rfl rfl),
    decided_field (decided_scalar rfl rfl), decided_field (decided_scalar rfl rfl),
    decided_field (decided_optional decided_string), decided_field decided_strings,
    decided_field (decided_scalar rfl rfl)⟩

theorem apart_fields : fields.Pairwise Apart := by
  simp only [fields, List.pairwise_cons, List.forall_mem_cons, List.not_mem_nil, false_imp_iff, implies_true,
    and_true, List.Pairwise.nil]
  and_intros <;> exact apart_of (fun _ _ _ => rfl) (fun _ _ => rfl) fun _ _ => rfl

theorem decided_decoder : Decided decoder := decided_record decided_fields _ _

theorem follows (depth : Nat) : Follows (made (decoder depth)) .declaration := by
  refine follows_record (.cons (fits_required fun _ => follows_string) <|
    .cons (fits_default (fun _ => follows_choice _) (stands_word rfl) ?_) <|
    .cons (fits_default (fun _ => follows_scalar rfl rfl) stands_no ?_) <|
    .cons (fits_default (fun _ => follows_scalar rfl rfl) stands_no ?_) <|
    .cons (fits_default (fun _ => follows_scalar rfl rfl) stands_no ?_) <|
    .cons (fits_default (fun _ => follows_optional rfl rfl) (stands_null decided_string) ?_) <|
    .cons (fits_default (fun _ => follows_strings) (stands_noItems decided_string) ?_) <|
    .cons (fits_required fun _ => follows_scalar rfl rfl) .nil) rfl (by decide) decided_fields apart_fields
  all_goals
    intro state absent
    cases state
    cases absent
    rfl

end Declaration

namespace Access

theorem decided_fields : ∀ field ∈ fields, Decided field.read := by
  simp only [fields, List.forall_mem_cons, List.not_mem_nil, false_imp_iff, implies_true, and_true]
  exact ⟨decided_field (decided_choice _), decided_field PropertyName.decided_decoder,
    decided_field Owner.decided_decoder, decided_field (decided_optional (decided_scalar rfl rfl))⟩

theorem apart_fields : fields.Pairwise Apart := by
  simp only [fields, List.pairwise_cons, List.forall_mem_cons, List.not_mem_nil, false_imp_iff, implies_true,
    and_true, List.Pairwise.nil]
  and_intros <;> exact apart_of (fun _ _ _ => rfl) (fun _ _ => rfl) fun _ _ => rfl

theorem decided_decoder : Decided decoder := decided_record decided_fields _ _

theorem follows (depth : Nat) : Follows (made (decoder depth)) .access := by
  refine follows_record (.cons (fits_required fun _ => follows_choice _) <|
    .cons (fits_required PropertyName.follows) <|
    .cons (fits_required Owner.follows) <|
    .cons (fits_default (fun _ => follows_optional rfl rfl) (stands_null (decided_scalar rfl rfl)) ?_) .nil)
    rfl (by decide) decided_fields apart_fields
  intro state absent
  cases state
  cases absent
  rfl

end Access

/-- A list of what follows its shape follows it item by item. -/
theorem follows_listOf {item : Decoder α} (decided : Decided item)
    (follows : ∀ depth, Follows (made (item depth)) shape) (depth : Nat) :
    Follows (made (Decoder.list item depth)) (.list shape) := by
  refine follows_list decided fun index inner position depth => ?_
  rcases position with rfl | rfl
  · exact (follows depth).plain
  · exact follows depth

namespace ClassFacts

theorem decided_fields : ∀ field ∈ fields, Decided field.read := by
  simp only [fields, List.forall_mem_cons, List.not_mem_nil, false_imp_iff, implies_true, and_true]
  exact ⟨decided_field decided_string, decided_field (decided_optional decided_string),
    decided_field (decided_choice _), decided_field Scope.decided_decoder,
    decided_field (decided_optional decided_string), decided_field (decided_list Declaration.decided_decoder),
    decided_field (decided_list Access.decided_decoder), decided_field decided_strings,
    decided_field Assignments.decided_decoder⟩

theorem apart_fields : fields.Pairwise Apart := by
  simp only [fields, List.pairwise_cons, List.forall_mem_cons, List.not_mem_nil, false_imp_iff, implies_true,
    and_true, List.Pairwise.nil]
  and_intros <;> exact apart_of (fun _ _ _ => rfl) (fun _ _ => rfl) fun _ _ => rfl

theorem decided_decoder : Decided decoder := decided_record decided_fields _ _

theorem follows (depth : Nat) : Follows (made (decoder depth)) .classFacts := by
  refine follows_record (.cons (fits_required fun _ => follows_string) <|
    .cons (fits_default (fun _ => follows_optional rfl rfl) (stands_null decided_string) ?_) <|
    .cons (fits_default (fun _ => follows_choice _) (stands_word rfl) ?_) <|
    .cons (fits_required Scope.follows) <|
    .cons (fits_default (fun _ => follows_optional rfl rfl) (stands_null decided_string) ?_) <|
    .cons (fits_default (follows_listOf Declaration.decided_decoder Declaration.follows)
      (stands_noItems Declaration.decided_decoder) ?_) <|
    .cons (fits_default (follows_listOf Access.decided_decoder Access.follows)
      (stands_noItems Access.decided_decoder) ?_) <|
    .cons (fits_default (fun _ => follows_strings) (stands_noItems decided_string) ?_) <|
    .cons (fits_default (fun _ => Assignments.follows) stands_noMembers ?_) .nil)
    rfl (by decide) decided_fields apart_fields
  all_goals
    intro state absent
    cases state
    cases absent
    rfl

end ClassFacts

namespace FactFile

theorem decided_fields : ∀ field ∈ fields, Decided field.read := by
  simp only [fields, List.forall_mem_cons, List.not_mem_nil, false_imp_iff, implies_true, and_true]
  exact ⟨decided_field (decided_list Hierarchy.Entry.decided_decoder),
    decided_field (decided_list ClassFacts.decided_decoder)⟩

theorem apart_fields : fields.Pairwise Apart := by
  simp only [fields, List.pairwise_cons, List.forall_mem_cons, List.not_mem_nil, false_imp_iff, implies_true,
    and_true, List.Pairwise.nil]
  exact apart_of (fun _ _ _ => rfl) (fun _ _ => rfl) fun _ _ => rfl

theorem decided_decoder : Decided decoder := decided_record decided_fields _ _

theorem follows (depth : Nat) : Follows (made (decoder depth)) .factFile := by
  refine follows_record (.cons (fits_default (follows_listOf Hierarchy.Entry.decided_decoder
      Hierarchy.Entry.follows) (stands_noItems Hierarchy.Entry.decided_decoder) ?_) <|
    .cons (fits_default (follows_listOf ClassFacts.decided_decoder ClassFacts.follows)
      (stands_noItems ClassFacts.decided_decoder) ?_) .nil)
    rfl (by decide) decided_fields apart_fields
  all_goals
    intro state absent
    cases state
    cases absent
    rfl

/-! ### Texts -/

/-- A document is made what its tree is made. -/
theorem document_spelled {decoder : Decoder α} (decided : Decided decoder) {source : Source}
    {text : List UInt8} (spells : SpellsDocument source text) {value : α} :
    Decoder.document decoder depth text = .ok value ↔ made (decoder depth) source = some value := by
  obtain ⟨before, body, after, beforeBlank, afterBlank, bodySpells, rfl⟩ := spells
  have ends : Ends after := by simpa using ends_allBlank_append afterBlank ends_nil
  have read := decided depth source before body after beforeBlank bodySpells ends
  have nothing : Reader.dropBlanks after = [] := by
    have blank := dropBlanks_allBlank afterBlank []
    rwa [List.append_nil] at blank
  rw [document_eq_ok_iff]
  simp only [← run?_eq_some_iff, read, Option.map_eq_some_iff, Prod.mk.injEq]
  constructor
  · rintro ⟨_, ⟨_, made, rfl, rfl⟩, -⟩
    exact made
  · exact fun made => ⟨after, ⟨value, made, rfl, rfl⟩, nothing⟩

/-- The order of members and members that are ignored make no difference to the facts of a text, be it that
there are none. Nor does it make one to leave out members that have their default, if there are facts. -/
theorem parse_rearranged {path : Path} {text later : String} {source other : Source}
    (spells : SpellsDocument source (Text.bytes text)) (spellsLater : SpellsDocument other (Text.bytes later))
    (distinct : source.Distinct) (distinctOther : other.Distinct) :
    (Varied source other → ∀ facts, parse path text = .ok facts ↔ parse path later = .ok facts) ∧
      (Shortened source other → ∀ facts, parse path text = .ok facts → parse path later = .ok facts) := by
  have parsed (facts : FactFile) :
      parse path text = .ok facts ↔ made (decoder Decoder.depthLimit) source = some facts :=
    parse_eq_ok_iff.trans (document_spelled decided_decoder spells)
  have parsedLater (facts : FactFile) :
      parse path later = .ok facts ↔ made (decoder Decoder.depthLimit) other = some facts :=
    parse_eq_ok_iff.trans (document_spelled decided_decoder spellsLater)
  simp only [parsed, parsedLater]
  exact ⟨fun varied facts => (follows _).varied varied distinctOther facts,
    fun shortened facts => (follows _).shortened shortened distinct facts⟩

def unescaped (text : String) (plain : (Text.bytes text).all (IsPlain ·) = true) : Content :=
  ⟨Text.bytes text, isContent_of_plain fun byte among => of_decide_eq_true (List.all_eq_true.mp plain byte among)⟩

/-- The tree of a class with these members of its scope and these further members. -/
def classTree (scope others : List (Content × Source)) : Source :=
  .object ((unescaped "name" (by decide), .scalar (.string (unescaped "A" (by decide)))) ::
    (unescaped "scope" (by decide), .object scope) :: others)

/-- The tree of a fact file with one class. -/
def oneClass (scope others : List (Content × Source)) : Source :=
  .object [(unescaped "classes" (by decide), .array [classTree scope others])]

theorem within_oneClass {change : Change} {scope others laterScope laterOthers : List (Content × Source)}
    (within : Within change .classFacts (classTree scope others) (classTree laterScope laterOthers)) :
    Within change .factFile (oneClass scope others) (oneClass laterScope laterOthers) := by
  have classes : Shape.factFile.Member (unescaped "classes" (by decide)) (.list .classFacts) :=
    .inr ⟨_, List.mem_cons_of_mem _ List.mem_cons_self, by decide +kernel, rfl⟩
  have item : (Shape.list .classFacts).Item ([] : List Source).length .classFacts := .inr rfl
  have inList : Within change (.list .classFacts) (.array [classTree scope others])
      (.array [classTree laterScope laterOthers]) := .item [] [] item within
  exact .member [] [] classes inList

def globally : Content × Source :=
  (unescaped "kind" (by decide), .scalar (.string (unescaped "global" (by decide))))

def noFile : Content × Source := (unescaped "file" (by decide), .scalar .null)

def noClass : Content × Source := (unescaped "class" (by decide), .scalar .null)

def oneClassText (scope others : List (String × Json)) : String :=
  (Json.object [("classes", .array [.object (("name", .string "A") :: ("scope", .object scope) :: others)])]).compact

theorem ignored_noClass : Variation .scope [globally] [noClass, globally] := by
  have named : (unescaped "class" (by decide)).string? = some "class" := by decide +kernel
  have outside : (unescaped "global" (by decide)).string? = some "global" := by decide +kernel
  refine .insert named ⟨by decide, fun member among _ field chosen => ?_⟩ trivial
  obtain rfl := List.mem_singleton.mp among
  simp [globally, Shape.chosen?, Source.found?, Token.found?, outside, scalarOf, Buffered.caseName,
    List.lookup_cons, Except.toOption] at chosen

/-- A global scope ignores that a class is given, and a file that is null may be left out. -/
theorem parse_one_class :
    ∃ facts, parse ⟨"f.json"⟩ (oneClassText [("kind", .string "global")] [("file", .null)]) = .ok facts ∧
      parse ⟨"f.json"⟩ (oneClassText [("class", .null), ("kind", .string "global")] [("file", .null)]) =
        .ok facts ∧
      parse ⟨"f.json"⟩ (oneClassText [("kind", .string "global")] []) = .ok facts := by
  have spells : SpellsDocument (oneClass [globally] [noFile])
      (Text.bytes (oneClassText [("kind", .string "global")] [("file", .null)])) :=
    ⟨[], _, [], allBlank_nil, allBlank_nil, spells_text _, by decide +kernel⟩
  have spellsMore : SpellsDocument (oneClass [noClass, globally] [noFile])
      (Text.bytes (oneClassText [("class", .null), ("kind", .string "global")] [("file", .null)])) :=
    ⟨[], _, [], allBlank_nil, allBlank_nil, spells_text _, by decide +kernel⟩
  have spellsLess : SpellsDocument (oneClass [globally] [])
      (Text.bytes (oneClassText [("kind", .string "global")] [])) :=
    ⟨[], _, [], allBlank_nil, allBlank_nil, spells_text _, by decide +kernel⟩
  have distinctMore : (oneClass [noClass, globally] [noFile]).Distinct := by
    simp only [oneClass, Source.Distinct, Source.DistinctMembers, Source.DistinctItems, classTree, globally,
      noClass, noFile]
    decide +kernel
  have varied : Varied (oneClass [globally] [noFile]) (oneClass [noClass, globally] [noFile]) := by
    have scope : Shape.classFacts.Member (unescaped "scope" (by decide)) .scope :=
      .inr ⟨⟨"scope", .scope, none⟩, by simp [Shape.fields, Shape.form], by decide +kernel, rfl⟩
    exact .single (within_oneClass (.member [_] _ scope (.here ignored_noClass)))
  have shortened : Shortened (oneClass [globally] [noFile]) (oneClass [globally] []) := by
    have file : (⟨"file", .plain, some .null⟩ : Shape.Field) ∈ Shape.classFacts.fields := by
      simp [Shape.fields, Shape.form]
    exact .single (within_oneClass (.here (.leaveOut [_, _] [] file rfl
      (by decide +kernel) rfl)))
  have distinct := varied.distinct distinctMore
  have isParsed : (parse ⟨"f.json"⟩
      (oneClassText [("kind", .string "global")] [("file", .null)])).toOption.isSome := by decide +kernel
  obtain ⟨facts, parsed⟩ := Option.isSome_iff_exists.mp isParsed
  have parsed := toOption_eq_some_iff.mp parsed
  exact ⟨facts, parsed, ((parse_rearranged spells spellsMore distinct distinctMore).1 varied _).mp parsed,
    (parse_rearranged spells spellsLess distinct (shortened.distinct distinct)).2 shortened _ parsed⟩

end FactFile

end PropertyAudit
