import AgentSentinel.Python.Exceptions

/-!
# AgentSentinel.Python.Base64

`base64.b64encode` and `base64.b64decode` with the standard alphabet. Decoding is the
lenient one: characters outside the alphabet are skipped, and what follows the padding
is not read.
-/

namespace AgentSentinel

namespace Base64

/-- The character for six bits. -/
def encodeSextet (n : ℕ) : CodePoint :=
  Fin.ofNat 0x110000 (if n < 26 then 65 + n else if n < 52 then 71 + n
    else if n < 62 then n - 4 else if n = 62 then 43 else 47)

/-- The six bits of a character of the alphabet. -/
def decodeSextet (c : CodePoint) : Option ℕ :=
  if 65 ≤ c.val ∧ c.val ≤ 90 then some (c.val - 65)
  else if 97 ≤ c.val ∧ c.val ≤ 122 then some (c.val - 71)
  else if 48 ≤ c.val ∧ c.val ≤ 57 then some (c.val + 4)
  else if c.val = 43 then some 62
  else if c.val = 47 then some 63
  else none

/-- The padding character. -/
def pad : CodePoint := 0x3D

/-- `base64.b64encode(bytes)`, as text. -/
def encode : PyBytes → PyStr
  | [] => []
  | [a] => [encodeSextet (a.val / 4), encodeSextet (a.val % 4 * 16), pad, pad]
  | [a, b] =>
    [encodeSextet (a.val / 4), encodeSextet (a.val % 4 * 16 + b.val / 16),
      encodeSextet (b.val % 16 * 4), pad]
  | a :: b :: c :: bytes =>
    encodeSextet (a.val / 4) :: encodeSextet (a.val % 4 * 16 + b.val / 16) ::
      encodeSextet (b.val % 16 * 4 + c.val / 64) :: encodeSextet (c.val % 64) :: encode bytes

/-- `binascii.a2b_base64`: the position in the group of four, the bits read and not yet
written, and the padding characters met in the group. -/
def decodeFrom (pos bits pads : ℕ) : PyStr → Result PyBytes
  | [] => if pos = 0 then .ok [] else .error ⟨.valueError, py "Incorrect padding"⟩
  | c :: s =>
    if c = pad then
      if 2 ≤ pos then
        if 4 ≤ pos + (pads + 1) then .ok [] else decodeFrom pos bits (pads + 1) s
      else decodeFrom pos bits pads s
    else match decodeSextet c with
      | none => decodeFrom pos bits pads s
      | some n =>
        if pos = 0 then decodeFrom 1 n 0 s
        else if pos = 1 then
          (decodeFrom 2 (n % 16) 0 s).map (Fin.ofNat 256 (bits * 4 + n / 16) :: ·)
        else if pos = 2 then
          (decodeFrom 3 (n % 4) 0 s).map (Fin.ofNat 256 (bits * 16 + n / 4) :: ·)
        else (decodeFrom 0 0 0 s).map (Fin.ofNat 256 (bits * 64 + n) :: ·)

/-- `base64.b64decode(text)`. -/
def decode (s : PyStr) : Result PyBytes :=
  if s.any fun c => decide (0x80 ≤ c.val) then
    .error ⟨.valueError, py "string argument should contain only ASCII characters"⟩
  else decodeFrom 0 0 0 s

theorem decodeSextet_encodeSextet {n : ℕ} (hn : n < 64) :
    decodeSextet (encodeSextet n) = some n ∧ encodeSextet n ≠ pad ∧
      (encodeSextet n).val < 0x80 := by
  have hall : ∀ n < 64, decodeSextet (encodeSextet n) = some n ∧ encodeSextet n ≠ pad ∧
      (encodeSextet n).val < 0x80 := by decide
  exact hall n hn

/-- One character of a group. -/
theorem decodeFrom_sextet {n : ℕ} (hn : n < 64) (pos bits pads : ℕ) (s : PyStr) :
    decodeFrom pos bits pads (encodeSextet n :: s) =
      if pos = 0 then decodeFrom 1 n 0 s
      else if pos = 1 then
        (decodeFrom 2 (n % 16) 0 s).map (Fin.ofNat 256 (bits * 4 + n / 16) :: ·)
      else if pos = 2 then
        (decodeFrom 3 (n % 4) 0 s).map (Fin.ofNat 256 (bits * 16 + n / 4) :: ·)
      else (decodeFrom 0 0 0 s).map (Fin.ofNat 256 (bits * 64 + n) :: ·) := by
  obtain ⟨hvalue, hpad, -⟩ := decodeSextet_encodeSextet hn
  rw [decodeFrom, if_neg hpad, hvalue]

theorem ofNat_of_eq {n : ℕ} {a : Fin 256} (h : n = a.val) : Fin.ofNat 256 n = a := by
  rw [h]
  exact Fin.ofNat_val_eq_self a

/-- The first character of a group holds six bits of the first byte. -/
theorem decodeFrom_first {n : ℕ} (hn : n < 64) (s : PyStr) :
    decodeFrom 0 0 0 (encodeSextet n :: s) = decodeFrom 1 n 0 s := by
  rw [decodeFrom_sextet hn, if_pos rfl]

/-- The second completes the first byte, and holds four bits of the next. -/
theorem decodeFrom_second (a : Fin 256) {m : ℕ} (hm : m < 16) (s : PyStr) :
    decodeFrom 1 (a.val / 4) 0 (encodeSextet (a.val % 4 * 16 + m) :: s) =
      (decodeFrom 2 m 0 s).map (a :: ·) := by
  have hbits : (a.val % 4 * 16 + m) % 16 = m := by omega
  have hbyte : Fin.ofNat 256 (a.val / 4 * 4 + (a.val % 4 * 16 + m) / 16) = a :=
    ofNat_of_eq (by omega)
  rw [decodeFrom_sextet (by omega), if_neg (by decide), if_pos rfl, hbits, hbyte]

/-- The third completes the second byte, and holds two bits of the next. -/
theorem decodeFrom_third (b : Fin 256) {m : ℕ} (hm : m < 4) (s : PyStr) :
    decodeFrom 2 (b.val / 16) 0 (encodeSextet (b.val % 16 * 4 + m) :: s) =
      (decodeFrom 3 m 0 s).map (b :: ·) := by
  have hb := b.isLt
  have hbits : (b.val % 16 * 4 + m) % 4 = m := by omega
  have hbyte : Fin.ofNat 256 (b.val / 16 * 16 + (b.val % 16 * 4 + m) / 4) = b :=
    ofNat_of_eq (by omega)
  rw [decodeFrom_sextet (by omega), if_neg (by decide), if_neg (by decide), if_pos rfl, hbits,
    hbyte]

/-- The fourth completes the third byte and the group. -/
theorem decodeFrom_fourth (c : Fin 256) (s : PyStr) :
    decodeFrom 3 (c.val / 64) 0 (encodeSextet (c.val % 64) :: s) =
      (decodeFrom 0 0 0 s).map (c :: ·) := by
  have hbyte : Fin.ofNat 256 (c.val / 64 * 64 + c.val % 64) = c := ofNat_of_eq (by omega)
  rw [decodeFrom_sextet (by omega), if_neg (by decide), if_neg (by decide), if_neg (by decide),
    hbyte]

/-- Each byte is put together again from the bits two characters hold of it. -/
theorem decodeFrom_encode (bytes : PyBytes) : decodeFrom 0 0 0 (encode bytes) = .ok bytes := by
  induction bytes using encode.induct with
  | case1 => rfl
  | case2 a =>
      have ha := a.isLt
      rw [encode, decodeFrom_first (by omega), ← Nat.add_zero (a.val % 4 * 16),
        decodeFrom_second a (by decide)]
      rfl
  | case3 a b =>
      have ha := a.isLt
      have hb := b.isLt
      rw [encode, decodeFrom_first (by omega), decodeFrom_second a (by omega),
        ← Nat.add_zero (b.val % 16 * 4), decodeFrom_third b (by decide)]
      rfl
  | case4 a b c bytes ih =>
      have ha := a.isLt
      have hb := b.isLt
      have hc := c.isLt
      rw [encode, decodeFrom_first (by omega), decodeFrom_second a (by omega),
        decodeFrom_third b (by omega), decodeFrom_fourth c, ih]
      rfl

theorem encode_ascii (bytes : PyBytes) : ∀ c ∈ encode bytes, c.val < 0x80 := by
  induction bytes using encode.induct with
  | case1 => simp [encode]
  | case2 a =>
      have ha := a.isLt
      simp only [encode, List.forall_mem_cons]
      exact ⟨(decodeSextet_encodeSextet (by omega)).2.2, (decodeSextet_encodeSextet (by omega)).2.2,
        by decide, by decide, by simp⟩
  | case3 a b =>
      have ha := a.isLt
      have hb := b.isLt
      simp only [encode, List.forall_mem_cons]
      exact ⟨(decodeSextet_encodeSextet (by omega)).2.2, (decodeSextet_encodeSextet (by omega)).2.2,
        (decodeSextet_encodeSextet (by omega)).2.2, by decide, by simp⟩
  | case4 a b c bytes ih =>
      have ha := a.isLt
      have hb := b.isLt
      have hc := c.isLt
      simp only [encode, List.forall_mem_cons]
      exact ⟨(decodeSextet_encodeSextet (by omega)).2.2, (decodeSextet_encodeSextet (by omega)).2.2,
        (decodeSextet_encodeSextet (by omega)).2.2, (decodeSextet_encodeSextet (by omega)).2.2, ih⟩

/-- What was encoded is decoded. -/
theorem decode_encode (bytes : PyBytes) : decode (encode bytes) = .ok bytes := by
  have hascii : ¬ (encode bytes).any (fun c => decide (0x80 ≤ c.val)) = true := by
    simp only [List.any_eq_true, decide_eq_true_eq, not_exists, not_and, not_le]
    exact encode_ascii bytes
  rw [decode, if_neg hascii]
  exact decodeFrom_encode bytes

end Base64

end AgentSentinel
