import Mathlib.Tactic.TypeStar

/-!
# AgentSentinel.Lib.IdealSignature

An ideal signature scheme, as one verifier sees one key: a signature is accepted on a
message exactly when the owner of the key has signed that message and this is the
signature. Nobody else can make one, however many he has seen.

What is signed is usually not the message itself but a statement somebody makes, encoded
as one. Where the encoding loses nothing, acceptance says that the statement has been
made.
-/

namespace AgentSentinel.Lib

/-- The scheme is ideal for an owner who has signed the messages `signed`. -/
structure IdealSignature {M S : Type*} (sign : M → S) (accepts : S → M → Prop)
    (signed : M → Prop) : Prop where
  accepts_iff : ∀ s m, accepts s m ↔ signed m ∧ s = sign m

namespace IdealSignature

variable {M S A : Type*} {sign : M → S} {accepts : S → M → Prop}

/-- The messages that encode one of the statements made. -/
def Encodes (encoding : A → M → Prop) (made : A → Prop) (m : M) : Prop :=
  ∃ a, made a ∧ encoding a m

variable {encoding : A → M → Prop} {made : A → Prop} {a : A} {s : S} {m : M}

/-- The signature of a statement that has been made is accepted. -/
theorem accepts_made (h : IdealSignature sign accepts (Encodes encoding made))
    (hmade : made a) (hm : encoding a m) : accepts (sign m) m :=
  (h.accepts_iff _ m).mpr ⟨⟨a, hmade, hm⟩, rfl⟩

/-- **Unforgeability of statements.** Where no message encodes two statements, a signature
is accepted on one exactly when the statement has been made and this is its signature. -/
theorem accepts_statement_iff (h : IdealSignature sign accepts (Encodes encoding made))
    (hinj : ∀ a b m, encoding a m → encoding b m → a = b) (hm : encoding a m) :
    accepts s m ↔ made a ∧ s = sign m := by
  rw [h.accepts_iff]
  constructor
  · rintro ⟨⟨b, hmade, hb⟩, hs⟩
    exact ⟨hinj a b m hm hb ▸ hmade, hs⟩
  · rintro ⟨hmade, hs⟩
    exact ⟨⟨a, hmade, hm⟩, hs⟩

end IdealSignature

end AgentSentinel.Lib
