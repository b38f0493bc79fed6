/-! Texts found in other texts, and texts equal up to ASCII case. -/
namespace PropertyAudit.Text

def isInfix (pattern : List Char) : List Char → Bool
  | [] => pattern.isEmpty
  | c :: rest => pattern.isPrefixOf (c :: rest) || isInfix pattern rest

def contains (text pattern : String) : Bool := isInfix pattern.toList text.toList

def equalsIgnoringCase (a b : String) : Bool :=
  a.toList.map Char.toLower == b.toList.map Char.toLower

theorem isInfix_iff {pattern text : List Char} :
    isInfix pattern text ↔ ∃ before after, text = before ++ pattern ++ after := by
  induction text with
  | nil =>
    constructor
    · intro h
      exact ⟨[], [], by simpa [isInfix] using h⟩
    · rintro ⟨before, after, h⟩
      simp at h
      simp [isInfix, h]
  | cons c rest ih =>
    simp only [isInfix, Bool.or_eq_true, List.isPrefixOf_iff_prefix, ih]
    constructor
    · rintro (⟨after, h⟩ | ⟨before, after, h⟩)
      · exact ⟨[], after, by simpa using h.symm⟩
      · exact ⟨c :: before, after, by simp [h]⟩
    · rintro ⟨before, after, h⟩
      cases before with
      | nil => exact .inl ⟨after, by simpa using h.symm⟩
      | cons b before =>
        simp only [List.cons_append, List.cons.injEq] at h
        exact .inr ⟨before, after, h.2⟩

end PropertyAudit.Text
