import PropertyAudit.ClassFacts

/-! The declarations that count: of each name the first. Declarations of a name that follow the first
one are dropped by name alone, so what is left can be found by name. -/
namespace PropertyAudit.Declaration

def IsFirstIn (declaration : Declaration) (declarations : List Declaration) : Prop :=
  declarations.find? (·.name == declaration.name) = some declaration

def firsts (declarations : List Declaration) : List Declaration :=
  declarations.eraseDupsBy (·.name == ·.name)

/-- Induction that takes a declaration away together with all later ones of its name. -/
@[elab_as_elim]
theorem inductByName {motive : List Declaration → Prop} (nil : motive [])
    (cons : ∀ declaration declarations,
      motive (declarations.filter (!·.name == declaration.name)) →
        motive (declaration :: declarations)) : ∀ declarations, motive declarations
  | [] => nil
  | declaration :: declarations =>
    cons declaration declarations (inductByName nil cons (declarations.filter _))
termination_by declarations => declarations.length
decreasing_by exact Nat.lt_succ_of_le (List.length_filter_le _ _)

theorem firsts_cons (declaration : Declaration) (declarations : List Declaration) :
    firsts (declaration :: declarations) =
      declaration :: firsts (declarations.filter (!·.name == declaration.name)) := by
  simp only [firsts, List.eraseDupsBy_cons, Bool.decide_eq_false]

theorem firsts_eq_nil_iff {declarations : List Declaration} :
    firsts declarations = [] ↔ declarations = [] := by
  cases declarations with
  | nil => exact iff_of_true rfl rfl
  | cons declaration declarations => simp [firsts_cons]

theorem names_firsts (declarations : List Declaration) :
    (firsts declarations).map (·.name) = (declarations.map (·.name)).eraseDups := by
  induction declarations using inductByName with
  | nil => rfl
  | cons declaration declarations ih =>
    rw [firsts_cons, List.map_cons, ih, List.map_cons, List.eraseDups_cons, List.filter_map]
    rfl

theorem mem_firsts {declaration : Declaration} {declarations : List Declaration} :
    declaration ∈ firsts declarations ↔ declaration.IsFirstIn declarations := by
  induction declarations using inductByName with
  | nil => simp [firsts, IsFirstIn]
  | cons first declarations ih =>
    rw [firsts_cons, List.mem_cons, ih, IsFirstIn, IsFirstIn, List.find?_filter, List.find?_cons]
    by_cases same : first.name = declaration.name
    · have dropped : declarations.find? (fun other =>
          (!other.name == first.name) ∧ other.name == declaration.name) = none := by
        rw [List.find?_eq_none]
        simp [same]
      rw [dropped, beq_iff_eq.mpr same]
      simp only [reduceCtorEq, or_false, Option.some.injEq]
      exact eq_comm
    · have kept : (fun other : Declaration =>
          decide ((!other.name == first.name) ∧ other.name == declaration.name)) =
          fun other => other.name == declaration.name := by
        funext other
        by_cases here : other.name = declaration.name <;> simp [here, Ne.symm same]
      have notFirst : declaration ≠ first := fun equal => same (equal ▸ rfl)
      rw [kept, beq_eq_false_iff_ne.mpr same]
      simp only [notFirst, false_or]

theorem firsts_sublist (declarations : List Declaration) :
    (firsts declarations).Sublist declarations := by
  induction declarations using inductByName with
  | nil => exact .slnil
  | cons declaration declarations ih =>
    rw [firsts_cons]
    exact (ih.trans List.filter_sublist).cons_cons declaration

theorem nodup_names_firsts (declarations : List Declaration) :
    ((firsts declarations).map (·.name)).Nodup := by
  induction declarations using inductByName with
  | nil => exact .nil
  | cons declaration declarations ih =>
    rw [firsts_cons, List.map_cons, List.nodup_cons]
    refine ⟨fun again => ?_, ih⟩
    obtain ⟨other, member, same⟩ := List.mem_map.mp again
    have kept := (List.mem_filter.mp ((firsts_sublist _).subset member)).2
    simp [same] at kept

/-- Declarations may be left out before or after later ones of a name are dropped, as long as those of
one name are left out together. -/
theorem firsts_filter {kept : Declaration → Bool} {declarations : List Declaration}
    (together : ∀ a ∈ declarations, ∀ b ∈ declarations, a.name = b.name → kept a = kept b) :
    firsts (declarations.filter kept) = (firsts declarations).filter kept := by
  induction declarations using inductByName with
  | nil => rfl
  | cons declaration declarations ih =>
    have among {other : Declaration}
        (member : other ∈ declarations.filter (!·.name == declaration.name)) :
        other ∈ declaration :: declarations := .tail _ (List.mem_filter.mp member).1
    have rest := ih fun a here b there => together a (among here) b (among there)
    rw [firsts_cons, List.filter_cons, List.filter_cons, ← rest]
    cases first : kept declaration with
    | true => simp only [if_pos, firsts_cons, List.filter_filter, Bool.and_comm]
    | false =>
      have alone : declarations.filter kept =
          (declarations.filter (!·.name == declaration.name)).filter kept := by
        rw [List.filter_filter]
        apply List.filter_congr
        intro other member
        by_cases same : other.name = declaration.name
        · rw [together other (.tail _ member) declaration (.head _) same, first, Bool.false_and]
        · simp [same]
      simp only [Bool.false_eq_true, if_false, alone]

theorem firsts_firsts (declarations : List Declaration) :
    firsts (firsts declarations) = firsts declarations := by
  induction declarations using inductByName with
  | nil => rfl
  | cons declaration declarations ih =>
    have dropped : (firsts (declarations.filter (!·.name == declaration.name))).filter
        (!·.name == declaration.name) = firsts (declarations.filter (!·.name == declaration.name)) := by
      apply List.filter_eq_self.mpr
      intro other member
      exact (List.mem_filter.mp ((firsts_sublist _).subset member)).2
    rw [firsts_cons, firsts_cons, dropped, ih]

end PropertyAudit.Declaration
