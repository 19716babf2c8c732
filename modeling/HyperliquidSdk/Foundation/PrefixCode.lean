import Mathlib.Data.List.Basic

/-!
# Prefix codes

Encodings that a reader takes off the front of a longer text. Values are compared up
to a relation, since an encoding may forget how a value was represented.
-/

set_option autoImplicit false

namespace Foundation

section PrefixCodes

variable {α σ : Type}

/-- No encoding is a proper prefix of another one. -/
def PrefixFree (encode : α → List σ) : Prop :=
  ∀ ⦃first second : α⦄, encode first <+: encode second → encode first = encode second

/-- Equal texts start with the encodings of the same value and go on alike. -/
def UniquelyRead (same : α → α → Prop) (encode : α → List σ) : Prop :=
  ∀ ⦃first second : α⦄ ⦃left right : List σ⦄,
    encode first ++ left = encode second ++ right → same first second ∧ left = right

variable {same : α → α → Prop} {encode : α → List σ}

theorem PrefixFree.uniquelyRead (prefixFree : PrefixFree encode)
    (injective : ∀ ⦃first second⦄, encode first = encode second → same first second) :
    UniquelyRead same encode := by
  intro first second left right texts
  have equal : encode first = encode second := by
    obtain before | after := List.prefix_or_prefix_of_prefix
      (texts ▸ List.prefix_append (encode first) left) (List.prefix_append (encode second) right)
    · exact prefixFree before
    · exact (prefixFree after).symm
  refine ⟨injective equal, ?_⟩
  rw [equal] at texts
  exact List.append_cancel_left texts

theorem prefixFree_of_length {width : Nat} (fixed : ∀ value, (encode value).length = width) :
    PrefixFree encode := by
  intro first second before
  apply before.eq_of_length
  rw [fixed first, fixed second]

theorem UniquelyRead.injective (read : UniquelyRead same encode) {first second : α}
    (equal : encode first = encode second) : same first second :=
  (read (congrArg (· ++ []) equal)).1

theorem UniquelyRead.prefixFree (read : UniquelyRead same encode) : PrefixFree encode := by
  intro first second before
  obtain ⟨rest, extended⟩ := before
  have ends := (read (extended.trans (List.append_nil _).symm)).2
  rw [ends, List.append_nil] at extended
  exact extended

/-- A symbol says whether a value follows. -/
def encodeOptional (absent present : σ) (encode : α → List σ) : Option α → List σ
  | none => [absent]
  | some value => present :: encode value

theorem UniquelyRead.optional {absent present : σ} (different : absent ≠ present)
    (read : UniquelyRead Eq encode) :
    UniquelyRead Eq (encodeOptional absent present encode) := by
  intro first second left right texts
  cases first with
  | none =>
      cases second with
      | none => exact ⟨rfl, (List.cons.inj texts).2⟩
      | some value => exact absurd (List.cons.inj texts).1 different
  | some value =>
      cases second with
      | none => exact absurd (List.cons.inj texts).1.symm different
      | some following =>
          obtain ⟨equal, rest⟩ := read (List.cons.inj texts).2
          exact ⟨congrArg some equal, rest⟩

end PrefixCodes

end Foundation
