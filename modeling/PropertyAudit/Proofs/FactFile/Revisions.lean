import Mathlib.Data.List.Nodup
import Mathlib.Data.List.Pairwise
import PropertyAudit.Proofs.FactFile.Shapes

/-! Readers that make the same of a revised tree. A revision changes the members of one object; what is made of
the values around it has to follow from what is made of the values inside. -/
namespace PropertyAudit

open Json
open Json.Decoder (RecordField record)

variable {α β σ : Type} {shape inner : Shape} {depth : Nat}

/-! ### Trees that differ in one object -/

/-- Members with or without an ignored one, in any order, or without one that has its default. -/
inductive Revision (shape : Shape) (members others : List (Content × Source)) : Prop where
  | vary : Variation shape members others → Revision shape members others
  | varyBack : Variation shape others members → Revision shape members others
  | leaveOut : Omission shape members others → Revision shape members others

namespace Within

variable {change weaker : Change} {source other : Source}

theorem mono (implies : ∀ shape members others, change shape members others → weaker shape members others)
    (within : Within change shape source other) : Within weaker shape source other := by
  induction within with
  | here changed => exact .here (implies _ _ _ changed)
  | item _ _ position _ ih => exact .item _ _ position ih
  | member _ _ position _ ih => exact .member _ _ position ih

theorem symm (within : Within (fun shape members others => change shape others members) shape source other) :
    Within change shape other source := by
  induction within with
  | here changed => exact .here changed
  | item _ _ position _ ih => exact .item _ _ position ih
  | member _ _ position _ ih => exact .member _ _ position ih

theorem distinct (keeps : ∀ shape members others, change shape members others →
      (Source.object others).Distinct → (Source.object members).Distinct)
    (within : Within change shape source other) (distinct : other.Distinct) : source.Distinct := by
  induction within with
  | here changed => exact keeps _ _ _ changed distinct
  | @item _ _ before after item other position _ ih =>
    rw [Source.distinct_array, List.forall_mem_append, List.forall_mem_cons] at distinct ⊢
    exact ⟨distinct.1, ih distinct.2.1, distinct.2.2⟩
  | @member _ _ before after name value other position _ ih =>
    rw [Source.distinct_object, List.forall_mem_append, List.forall_mem_cons] at distinct ⊢
    refine ⟨?_, distinct.2.1, ih distinct.2.2.1, distinct.2.2.2⟩
    simpa only [List.filterMap_append, List.filterMap_cons] using distinct.1

end Within

theorem Revision.perm {members others : List (Content × Source)}
    (revision : Revision .plain members others) : members.Perm others := by
  cases revision with
  | vary variation =>
    cases variation with
    | reorder perm => exact perm
    | insert _ ignored _ => exact ignored.elim
  | varyBack variation =>
    cases variation with
    | reorder perm => exact perm.symm
    | insert _ ignored _ => exact ignored.elim
  | leaveOut omission =>
    cases omission with
    | leaveOut _ _ among => cases among

theorem Shape.item_plain {index : Nat} (position : Shape.plain.Item index inner) : inner = .plain := by
  simpa [Shape.Item, Shape.form] using position

theorem Shape.member_plain {name : Content} (position : Shape.plain.Member name inner) : inner = .plain := by
  simpa [Shape.Member, Shape.fields, Shape.form] using position

/-- What may be revised of a plain tree may be revised wherever it stands. -/
theorem Within.of_plain {source other : Source} (within : Within Revision .plain source other) :
    Within Revision shape source other := by
  generalize plain : Shape.plain = start at within
  induction within generalizing shape with
  | here revision =>
    subst plain
    exact .here (.vary (.reorder revision.perm))
  | item _ _ position _ ih =>
    subst plain
    exact .item _ _ (.inl rfl) (ih (Shape.item_plain position).symm)
  | member _ _ position _ ih =>
    subst plain
    exact .member _ _ (.inl rfl) (ih (Shape.member_plain position).symm)

/-! ### Following a revision -/

/-- Whether the reader makes the same of a revised tree, if it makes anything of the tree at all. -/
def Follows (read : Source → Option α) (shape : Shape) : Prop :=
  ∀ source other value, Within Revision shape source other → source.Distinct → other.Distinct →
    read source = some value → read other = some value

namespace Follows

variable {read : Source → Option α}

theorem plain (follows : Follows read shape) : Follows read .plain :=
  fun source other value within => follows source other value within.of_plain

theorem map (follows : Follows read shape) (convert : α → β) :
    Follows (fun source => (read source).map convert) shape := by
  intro source other value within distinct others made
  obtain ⟨found, here, rfl⟩ := Option.map_eq_some_iff.mp made
  exact congrArg (Option.map convert) (follows source other found within distinct others here)

/-- Scalars cannot be revised. -/
theorem of_scalars (noArray : ∀ items, read (.array items) = none)
    (noObject : ∀ members, read (.object members) = none) : Follows read shape := by
  intro source other value within _ _ made
  cases within with
  | here => cases (noObject _).symm.trans made
  | item => cases (noArray _).symm.trans made
  | member => cases (noObject _).symm.trans made

end Follows

/-! ### Following step by step -/

theorem Variation.distinct {members others : List (Content × Source)}
    (variation : Variation shape members others) (distinct : (Source.object others).Distinct) :
    (Source.object members).Distinct := by
  rw [Source.distinct_object] at distinct ⊢
  cases variation with
  | reorder perm =>
    exact ⟨(perm.filterMap _).nodup_iff.mpr distinct.1, fun member among =>
      distinct.2 member (perm.mem_iff.mp among)⟩
  | insert _ _ _ =>
    exact ⟨distinct.1.sublist ((List.sublist_cons_self _ _).filterMap _), fun member among =>
      distinct.2 member (List.mem_cons_of_mem _ among)⟩

theorem Omission.distinct {members others : List (Content × Source)}
    (omission : Omission shape members others) (distinct : (Source.object members).Distinct) :
    (Source.object others).Distinct := by
  rw [Source.distinct_object] at distinct ⊢
  cases omission with
  | @leaveOut _ _ _ before after content value =>
    have fewer : (before ++ after).Sublist (before ++ (content, value) :: after) :=
      (List.sublist_cons_self _ after).append_left before
    exact ⟨distinct.1.sublist (fewer.filterMap _), fun member among =>
      distinct.2 member (fewer.subset among)⟩

section Steps

variable {source other : Source} {read : Source → Option α}

theorem Varied.distinct (varied : Varied source other) (distinct : other.Distinct) : source.Distinct := by
  induction varied with
  | refl => exact distinct
  | tail _ step ih => exact ih (step.distinct (fun _ _ _ => Variation.distinct) distinct)

theorem Shortened.distinct (shortened : Shortened source other) (distinct : source.Distinct) :
    other.Distinct := by
  induction shortened with
  | refl => exact distinct
  | tail _ step ih =>
    have back : Within (fun shape members others => Omission shape others members) .factFile _ _ :=
      Within.symm step
    exact back.distinct (fun _ _ _ => Omission.distinct) ih

/-- A varied tree is read as it was before, or not read as it was not read before. -/
theorem Follows.varied (follows : Follows read .factFile) (varied : Varied source other)
    (distinct : other.Distinct) (value : α) : read source = some value ↔ read other = some value := by
  induction varied with
  | refl => exact Iff.rfl
  | @tail middle last steps step ih =>
    have middleDistinct := step.distinct (fun _ _ _ => Variation.distinct) distinct
    refine (ih middleDistinct).trans ⟨?_, ?_⟩
    · exact follows middle last value (step.mono fun _ _ _ => .vary) middleDistinct distinct
    · have back : Within (fun shape members others => Variation shape others members) .factFile last middle :=
        Within.symm step
      exact follows last middle value (back.mono fun _ _ _ => .varyBack) distinct middleDistinct

/-- A shortened tree is read as it was before. -/
theorem Follows.shortened (follows : Follows read .factFile) (shortened : Shortened source other)
    (distinct : source.Distinct) (value : α) (made : read source = some value) : read other = some value := by
  induction shortened with
  | refl => exact made
  | @tail middle last steps step ih =>
    have middleDistinct := Shortened.distinct steps distinct
    have back : Within (fun shape members others => Omission shape others members) .factFile last middle :=
      Within.symm step
    exact follows middle last value (step.mono fun _ _ _ => .leaveOut) middleDistinct
      (back.distinct (fun _ _ _ => Omission.distinct) middleDistinct) ih

end Steps

/-! ### Lists -/

theorem mapM_replace {convert : α → Option β} {before after : List α} {item other : α} {results : List β}
    (follows : ∀ value, convert item = some value → convert other = some value)
    (all : (before ++ item :: after).mapM convert = some results) :
    (before ++ other :: after).mapM convert = some results := by
  rw [mapM_eq_some_iff] at all ⊢
  have here : convert item ∈ results.map some := by simp [← all]
  obtain ⟨value, _, made⟩ := List.mem_map.mp here
  have same : convert other = convert item := (follows value made.symm).trans made
  simpa only [List.map_append, List.map_cons, same] using all

theorem distinct_item {before after : List Source} {item : Source}
    (distinct : (Source.array (before ++ item :: after)).Distinct) : item.Distinct :=
  Source.distinct_array.mp distinct item List.mem_append_cons_self

theorem distinct_member {before after : List (Content × Source)} {name : Content} {value : Source}
    (distinct : (Source.object (before ++ (name, value) :: after)).Distinct) : value.Distinct :=
  (Source.distinct_object.mp distinct).2 (name, value) List.mem_append_cons_self

theorem descend_eq_some_iff {inside : Nat → Option α} {value : α} :
    descend depth inside = some value ↔ ∃ lower, depth = lower + 1 ∧ inside lower = some value := by
  cases depth with
  | zero => simp [descend]
  | succ depth => simp [descend]

theorem follows_list {item : Decoder α} (decided : Decided item)
    (follows : ∀ index inner, shape.Item index inner → ∀ depth, Follows (made (item depth)) inner) :
    Follows (made (Decoder.list item depth)) shape := by
  intro source other values within distinct others read
  rw [(yields_list decided).made_eq] at read ⊢
  cases within with
  | here => cases descend_none.symm.trans read
  | member => cases descend_none.symm.trans read
  | @item _ inner before after item other position within =>
    obtain ⟨lower, rfl, all⟩ := descend_eq_some_iff.mp read
    refine mapM_replace (fun value here => ?_) all
    exact follows _ inner position lower item other value within (distinct_item distinct)
      (distinct_item others) here

/-! ### Records -/

theorem foldMembers_append (store : String → Source → σ → Option σ)
    (before after : List (Content × Source)) (start : σ) :
    foldMembers store (before ++ after) start =
      (foldMembers store before start).bind (foldMembers store after) :=
  List.foldlM_append

/-- The order of the members does not matter if it does not matter for any two of them. -/
theorem foldMembers_perm {store : String → Source → σ → Option σ}
    (commutes : ∀ name later source value state, name ≠ later →
      (store name source state).bind (store later value) =
        (store later value state).bind (store name source))
    {members others : List (Content × Source)} (distinct : (members.filterMap (·.1.string?)).Nodup)
    (perm : members.Perm others) (start : σ) :
    foldMembers store members start = foldMembers store others start := by
  induction perm generalizing start with
  | nil => rfl
  | cons member perm ih =>
    have rest := distinct.sublist ((List.sublist_cons_self _ _).filterMap _)
    rw [foldMembers_cons, foldMembers_cons, funext (ih rest)]
  | swap first second members =>
    have two (one another : Content × Source) :
        foldMembers store (one :: another :: members) start =
          ((one.1.string?.bind fun name => store name one.2 start).bind fun state =>
            another.1.string?.bind fun name => store name another.2 state).bind
              (foldMembers store members) := by
      have one_eq : foldMembers store [another] = fun state =>
          another.1.string?.bind fun name => store name another.2 state := by
        funext state
        rw [foldMembers_cons]
        exact Option.bind_fun_some _
      exact (foldMembers_append store [one, another] members start).trans (by rw [foldMembers_cons, one_eq])
    rw [two, two]
    cases named : first.1.string? with
    | none => simp
    | some name =>
      cases namedLater : second.1.string? with
      | none => simp
      | some later =>
        have different : later ≠ name := by
          rintro rfl
          simp [named, namedLater] at distinct
        simp only [Option.bind_some, commutes later name second.2 first.2 start different]
  | trans perm _ ih later =>
    exact (ih distinct start).trans (later ((perm.filterMap _).nodup_iff.mp distinct) start)

theorem foldMembers_replace {store : String → Source → σ → Option σ} {before after : List (Content × Source)}
    {content : Content} {value other : Source} {start finished : σ}
    (follows : ∀ name state stored, content.string? = some name → store name value state = some stored →
      store name other state = some stored)
    (fold : foldMembers store (before ++ (content, value) :: after) start = some finished) :
    foldMembers store (before ++ (content, other) :: after) start = some finished := by
  rw [foldMembers_append, Option.bind_eq_some_iff] at fold ⊢
  obtain ⟨state, early, late⟩ := fold
  refine ⟨state, early, ?_⟩
  rw [foldMembers_cons, Option.bind_eq_some_iff] at late ⊢
  obtain ⟨stored, here, rest⟩ := late
  obtain ⟨name, named, stores⟩ := Option.bind_eq_some_iff.mp here
  exact ⟨stored, Option.bind_eq_some_iff.mpr ⟨name, named, follows name state stored named stores⟩, rest⟩

/-- Whether it does not matter which of two fields is stored first. -/
structure Apart (field other : RecordField σ) : Prop where
  commute {depth : Nat} {source value : Source} {store later : σ → σ} :
    made (field.read depth) source = some store → made (other.read depth) value = some later →
    ∀ state, later (store state) = store (later state)
  isGiven_left {depth : Nat} {value : Source} {later : σ → σ} :
    made (other.read depth) value = some later → ∀ state, field.isGiven (later state) = field.isGiven state
  isGiven_right {depth : Nat} {source : Source} {store : σ → σ} :
    made (field.read depth) source = some store → ∀ state, other.isGiven (store state) = other.isGiven state

theorem Apart.symm {field other : RecordField σ} (apart : Apart field other) : Apart other field where
  commute here there state := (apart.commute there here state).symm
  isGiven_left := apart.isGiven_right
  isGiven_right := apart.isGiven_left

theorem storeField_commutes {fields : List (RecordField σ)} (apart : fields.Pairwise Apart) (depth : Nat)
    {name later : String} (source value : Source) (state : σ) (different : name ≠ later) :
    (storeField fields depth name source state).bind (storeField fields depth later value) =
      (storeField fields depth later value state).bind (storeField fields depth name source) := by
  have symmetric : Std.Symm (@Apart σ) := ⟨fun _ _ => Apart.symm⟩
  unfold storeField
  cases here : fields.find? (·.name == name) with
  | none => cases fields.find? (·.name == later) <;> simp
  | some field =>
    cases there : fields.find? (·.name == later) with
    | none => simp
    | some other =>
      have two : field ≠ other := by
        rintro rfl
        have named := List.find?_some here
        have namedLater := List.find?_some there
        exact different ((beq_iff_eq.mp named).symm.trans (beq_iff_eq.mp namedLater))
      have apart := apart.forall (List.mem_of_find?_eq_some here) (List.mem_of_find?_eq_some there) two
      dsimp only
      cases read : made (field.read depth) source with
      | none => simp
      | some store =>
        cases readLater : made (other.read depth) value with
        | none => simp
        | some storeLater =>
          simp only [Option.map_some]
          by_cases given : field.isGiven state
          · by_cases givenLater : other.isGiven state
            · simp [given, givenLater]
            · simp [given, givenLater, apart.isGiven_left readLater state]
          · by_cases givenLater : other.isGiven state
            · simp [given, givenLater, apart.isGiven_right read state]
            · simp [given, givenLater, apart.isGiven_left readLater state, apart.isGiven_right read state,
                apart.commute read readLater state]

structure Fits (finish : σ → Except Cause α) (field : RecordField σ) (known : Shape.Field) : Prop where
  name_eq : field.name = known.name
  follows : ∀ depth, Follows (made (field.read depth)) known.shape
  /-- Storing the default makes no difference. -/
  idle {standard : Shape.Default} {source : Source} {depth : Nat} {store : σ → σ} {state : σ} :
    known.default? = some standard → standard.Is source → made (field.read depth) source = some store →
    field.isGiven state = false → finish (store state) = finish state

theorem fillInOrder_replace {fields : List (RecordField σ)} {before after : List Source}
    {item other : Source} {state finished : σ}
    (follows : ∀ field, fields[before.length]? = some field → ∀ store,
      made (field.read depth) item = some store → made (field.read depth) other = some store)
    (filled : fillInOrder depth fields (before ++ item :: after) state = some finished) :
    fillInOrder depth fields (before ++ other :: after) state = some finished := by
  induction before generalizing fields state with
  | nil =>
    cases fields with
    | nil => cases filled
    | cons field fields =>
      obtain ⟨store, here, rest⟩ := Option.bind_eq_some_iff.mp filled
      exact Option.bind_eq_some_iff.mpr ⟨store, follows field rfl store here, rest⟩
  | cons first before ih =>
    cases fields with
    | nil => cases filled
    | cons field fields =>
      obtain ⟨store, here, rest⟩ := Option.bind_eq_some_iff.mp filled
      exact Option.bind_eq_some_iff.mpr ⟨store, here, ih follows rest⟩

section Record

variable {fields : List (RecordField σ)} {known : List Shape.Field} {finish : σ → Except Cause α}
  {expected : String} {start : σ}

theorem exists_fits {name : String} {field : RecordField σ} (fits : List.Forall₂ (Fits finish) fields known)
    (found : fields.find? (·.name == name) = some field) :
    ∃ entry ∈ known, entry.name = name ∧ Fits finish field entry := by
  induction fits with
  | nil => cases found
  | @cons first entry fields known fit fits ih =>
    rw [List.find?_cons] at found
    split at found
    · next same =>
      cases found
      exact ⟨entry, List.mem_cons_self, fit.name_eq ▸ beq_iff_eq.mp same, fit⟩
    · obtain ⟨entry, among, rest⟩ := ih found
      exact ⟨entry, List.mem_cons_of_mem _ among, rest⟩

theorem find?_eq_none_of_fits {name : String} (fits : List.Forall₂ (Fits finish) fields known)
    (unknown : ∀ entry ∈ known, entry.name ≠ name) : fields.find? (·.name == name) = none := by
  cases found : fields.find? (·.name == name) with
  | none => rfl
  | some field =>
    obtain ⟨entry, among, named, -⟩ := exists_fits fits found
    exact absurd named (unknown entry among)

theorem exists_fits_of_index {index : Nat} {field : RecordField σ}
    (fits : List.Forall₂ (Fits finish) fields known) (found : fields[index]? = some field) :
    ∃ entry, known[index]? = some entry ∧ Fits finish field entry := by
  induction fits generalizing index with
  | nil => cases found
  | @cons first entry fields known fit fits ih =>
    cases index with
    | zero =>
      cases found
      exact ⟨entry, rfl, fit⟩
    | succ index => exact ih found

variable (fits : List.Forall₂ (Fits finish) fields known)
include fits

theorem storeField_ignored {members : List (Content × Source)} {name : String}
    (form : shape.form = .record known) (ignored : shape.Ignores members name) (source : Source) (state : σ) :
    storeField fields depth name source state = some state := by
  rw [Shape.Ignores, form] at ignored
  rw [storeField, find?_eq_none_of_fits fits ignored]

theorem foldMembers_ignored {members : List (Content × Source)} {content : Content} {name : String}
    (form : shape.form = .record known) (named : content.string? = some name)
    (ignored : shape.Ignores members name) (source : Source) :
    foldMembers (storeField fields depth) ((content, source) :: members) start =
      foldMembers (storeField fields depth) members start := by
  rw [foldMembers_cons, named, Option.bind_some, storeField_ignored fits form ignored, Option.bind_some]

/-- A default that is stored last makes no difference. -/
theorem finish_storeField {field : Shape.Field} {standard : Shape.Default} {source : Source} {state stored : σ}
    (apart : (known.map (·.name)).Nodup) (among : field ∈ known)
    (defaults : field.default? = some standard) (isDefault : standard.Is source)
    (stores : storeField fields depth field.name source state = some stored) :
    finish stored = finish state := by
  unfold storeField at stores
  cases found : fields.find? (·.name == field.name) with
  | none =>
    rw [found] at stores
    cases stores
    rfl
  | some stored =>
    obtain ⟨entry, known, named, fit⟩ := exists_fits fits found
    obtain rfl : entry = field := List.inj_on_of_nodup_map apart known among named
    rw [found] at stores
    dsimp only at stores
    split at stores
    · cases stores
    · next notGiven =>
      obtain ⟨store, read, rfl⟩ := Option.map_eq_some_iff.mp stores
      exact fit.idle defaults isDefault read (Bool.eq_false_iff.mpr notGiven)

/-- A revision of an item or of a member's value is followed if it is followed where it stands. -/
theorem read_follows_item {index : Nat} {field : RecordField σ} {item other : Source} {store : σ → σ}
    (form : shape.form = .record known) (position : shape.Item index inner)
    (found : fields[index]? = some field) (within : Within Revision inner item other)
    (distinct : item.Distinct) (others : other.Distinct)
    (read : made (field.read depth) item = some store) : made (field.read depth) other = some store := by
  obtain ⟨entry, there, fit⟩ := exists_fits_of_index fits found
  have follows := fit.follows depth
  rw [Shape.Item, form] at position
  rcases position with rfl | ⟨known, here, rfl⟩
  · exact follows.plain item other store within distinct others read
  · cases here.symm.trans there
    exact follows item other store within distinct others read

theorem storeField_follows {content : Content} {name : String} {value other : Source} {state stored : σ}
    (form : shape.form = .record known) (apart : (known.map (·.name)).Nodup)
    (named : content.string? = some name) (position : shape.Member content inner)
    (within : Within Revision inner value other) (distinct : value.Distinct) (others : other.Distinct)
    (stores : storeField fields depth name value state = some stored) :
    storeField fields depth name other state = some stored := by
  unfold storeField at stores ⊢
  cases found : fields.find? (·.name == name) with
  | none =>
    rw [found] at stores
    exact stores
  | some field =>
    rw [found] at stores
    dsimp only at stores ⊢
    split at stores
    · cases stores
    · next notGiven =>
      obtain ⟨store, read, rfl⟩ := Option.map_eq_some_iff.mp stores
      obtain ⟨entry, among, same, fit⟩ := exists_fits fits found
      have follows : Follows (made (field.read depth)) inner := by
        rcases position with rfl | ⟨known, listed, entryNamed, rfl⟩
        · exact (fit.follows depth).plain
        · rw [Shape.fields, form] at listed
          rw [named, Option.some.injEq] at entryNamed
          rw [List.inj_on_of_nodup_map apart listed among (entryNamed.symm.trans same.symm)]
          exact fit.follows depth
      rw [if_neg notGiven, follows value other store within distinct others read, Option.map_some]

theorem foldMembers_revised {members others : List (Content × Source)} {state : σ}
    (form : shape.form = .record known) (names : (known.map (·.name)).Nodup) (apart : fields.Pairwise Apart)
    (revision : Revision shape members others) (distinct : (members.filterMap (·.1.string?)).Nodup)
    (distinctOthers : (others.filterMap (·.1.string?)).Nodup)
    (fold : foldMembers (storeField fields depth) members start = some state) :
    ∃ revised, foldMembers (storeField fields depth) others start = some revised ∧
      finish revised = finish state := by
  have commutes (name later : String) (source value : Source) (state : σ) (different : name ≠ later) :=
    storeField_commutes apart depth source value state different
  cases revision with
  | vary variation =>
    cases variation with
    | reorder perm => exact ⟨state, foldMembers_perm commutes distinct perm start ▸ fold, rfl⟩
    | insert named ignored _ => exact ⟨state, (foldMembers_ignored fits form named ignored _).trans fold, rfl⟩
  | varyBack variation =>
    cases variation with
    | reorder perm => exact ⟨state, foldMembers_perm commutes distinctOthers perm start ▸ fold, rfl⟩
    | insert named ignored _ =>
      exact ⟨state, (foldMembers_ignored fits form named ignored _).symm.trans fold, rfl⟩
  | leaveOut omission =>
    obtain ⟨before, after, among, defaults, named, isDefault⟩ := omission
    rename_i field standard content value
    have last : (before ++ (content, value) :: after).Perm ((before ++ after) ++ [(content, value)]) := by
      rw [List.append_assoc]
      exact (List.perm_append_singleton _ _).symm.append_left before
    rw [foldMembers_perm commutes distinct last, foldMembers_append, Option.bind_eq_some_iff] at fold
    obtain ⟨stored, early, late⟩ := fold
    rw [foldMembers_cons, named, Option.bind_some] at late
    have late := (Option.bind_fun_some _).symm.trans late
    rw [Shape.fields, form] at among
    exact ⟨stored, early, (finish_storeField fits names among defaults isDefault late).symm⟩

theorem follows_record (form : shape.form = .record known) (names : (known.map (·.name)).Nodup)
    (decided : ∀ field ∈ fields, Decided field.read) (apart : fields.Pairwise Apart) :
    Follows (made (record expected fields start finish depth)) shape := by
  intro source other value within distinct others read
  rw [(yields_record decided start finish).made_eq] at read ⊢
  cases within with
  | @here _ members others revision =>
    obtain ⟨lower, rfl, whole⟩ := descend_eq_some_iff.mp read
    obtain ⟨state, fold, finished⟩ := Option.bind_eq_some_iff.mp whole
    obtain ⟨revised, again, same⟩ := foldMembers_revised fits form names apart revision
      (Source.distinct_object.mp distinct).1 (Source.distinct_object.mp others).1 fold
    exact Option.bind_eq_some_iff.mpr ⟨revised, again, same ▸ finished⟩
  | @item _ inner before after item other position within =>
    obtain ⟨lower, rfl, whole⟩ := descend_eq_some_iff.mp read
    obtain ⟨state, filled, finished⟩ := Option.bind_eq_some_iff.mp whole
    refine Option.bind_eq_some_iff.mpr ⟨state, fillInOrder_replace (fun field found store read => ?_) filled,
      finished⟩
    exact read_follows_item fits form position found within (distinct_item distinct)
      (distinct_item others) read
  | @member _ inner before after content value other position within =>
    obtain ⟨lower, rfl, whole⟩ := descend_eq_some_iff.mp read
    obtain ⟨state, fold, finished⟩ := Option.bind_eq_some_iff.mp whole
    refine Option.bind_eq_some_iff.mpr ⟨state, foldMembers_replace (fun name state stored named stores => ?_)
      fold, finished⟩
    exact storeField_follows fits form names named position within (distinct_member distinct)
      (distinct_member others) stores

end Record

end PropertyAudit
