import Mathlib.Data.Fintype.Basic
import Mathlib.Data.List.Basic

namespace DualSleeve.Library.PercentEncoding

-- Bytes as the text of a query: letters, digits and `_.-~` as they are, a space as a plus,
-- and all others as a percent sign and two digits.

abbrev Byte := Fin 256

def unreserved (byte : Byte) : Bool :=
  (Char.ofNat byte).isAlphanum || Char.ofNat byte ∈ ['_', '.', '-', '~']

def hexDigit (n : ℕ) : Char := Char.ofNat (if n < 10 then 48 + n else 55 + n)

def hexValue (c : Char) : ℕ := if c.isDigit then c.toNat - 48 else c.toNat - 55

def encodeByte (byte : Byte) : List Char :=
  if byte = 32 then ['+']
  else if unreserved byte then [Char.ofNat byte]
  else ['%', hexDigit (byte / 16), hexDigit (byte % 16)]

def encode (bytes : List Byte) : List Char := bytes.flatMap encodeByte

def decode : List Char → List Byte
  | '%' :: high :: low :: rest => Fin.ofNat 256 (16 * hexValue high + hexValue low) :: decode rest
  | '+' :: rest => 32 :: decode rest
  | c :: rest => Fin.ofNat 256 c.toNat :: decode rest
  | [] => []

-- The byte 37 is the percent sign, and 43 the plus.
theorem unreserved_spec : ∀ byte : Byte, unreserved byte = true →
    Char.ofNat byte ≠ '%' ∧ Char.ofNat byte ≠ '+' ∧ Char.ofNat byte ≠ '&' ∧ Char.ofNat byte ≠ '=' ∧
      Fin.ofNat 256 (Char.ofNat byte).toNat = byte := by
  decide +kernel

theorem hexDigits_spec : ∀ byte : Byte,
    Fin.ofNat 256 (16 * hexValue (hexDigit (byte / 16)) + hexValue (hexDigit (byte % 16))) = byte ∧
      hexDigit (byte / 16) ∉ ['&', '='] ∧ hexDigit (byte % 16) ∉ ['&', '='] := by
  decide +kernel

theorem decode_encodeByte (byte : Byte) (rest : List Char) :
    decode (encodeByte byte ++ rest) = byte :: decode rest := by
  unfold encodeByte
  split
  · rename_i hspace
    rw [hspace]
    rfl
  split
  · rename_i hunreserved
    obtain ⟨hpercent, hplus, -, -, hvalue⟩ := unreserved_spec byte hunreserved
    rw [List.singleton_append, decode.eq_3 _ _ (fun _ _ _ h => absurd h hpercent) hplus, hvalue]
  · rw [List.cons_append, List.cons_append, List.singleton_append, decode, (hexDigits_spec byte).1]

theorem decode_encode (bytes : List Byte) : decode (encode bytes) = bytes := by
  induction bytes with
  | nil => rfl
  | cons byte bytes ih =>
    unfold encode at ih ⊢
    rw [List.flatMap_cons, decode_encodeByte, ih]

-- A separator never shows in what is encoded.
theorem notMem_encode {c : Char} (h : c = '&' ∨ c = '=') (bytes : List Byte) : c ∉ encode bytes := by
  intro hmem
  obtain ⟨byte, -, hbyte⟩ := List.mem_flatMap.mp hmem
  unfold encodeByte at hbyte
  split at hbyte
  · rcases h with rfl | rfl <;> simp at hbyte
  split at hbyte
  · rename_i hunreserved
    obtain ⟨-, -, hand, hequals, -⟩ := unreserved_spec byte hunreserved
    rw [List.mem_singleton] at hbyte
    exact h.elim (fun he => hand (hbyte.symm.trans he)) (fun he => hequals (hbyte.symm.trans he))
  · obtain ⟨-, hhigh, hlow⟩ := hexDigits_spec byte
    have hseparator : c ∈ ['&', '='] := by simpa using h
    simp only [List.mem_cons, List.not_mem_nil, or_false] at hbyte
    rcases hbyte with rfl | rfl | rfl
    · simp at h
    · exact hhigh hseparator
    · exact hlow hseparator

-- `key=value`, and back.
def encodePair (pair : List Byte × List Byte) : List Char := encode pair.1 ++ '=' :: encode pair.2

def decodePair (cs : List Char) : List Byte × List Byte :=
  (decode (cs.takeWhile (· != '=')), decode ((cs.dropWhile (· != '=')).drop 1))

theorem decodePair_encodePair (pair : List Byte × List Byte) : decodePair (encodePair pair) = pair := by
  have hkey : ∀ c ∈ encode pair.1, (c != '=') = true := by
    intro c hc
    rw [bne_iff_ne]
    rintro rfl
    exact notMem_encode (.inr rfl) pair.1 hc
  unfold decodePair encodePair
  rw [List.takeWhile_append_of_pos hkey, List.dropWhile_append_of_pos hkey]
  simp [decode_encode]

-- The pairs of a query, and back.
def encodeQuery (pairs : List (List Byte × List Byte)) : List Char :=
  ['&'].intercalate (pairs.map encodePair)

def decodeQuery (cs : List Char) : List (List Byte × List Byte) :=
  if cs = [] then [] else (cs.splitOn '&').map decodePair

theorem notMem_encodePair (pair : List Byte × List Byte) : '&' ∉ encodePair pair := by
  unfold encodePair
  simp [notMem_encode (.inl rfl)]

theorem decodeQuery_encodeQuery (pairs : List (List Byte × List Byte)) :
    decodeQuery (encodeQuery pairs) = pairs := by
  cases pairs with
  | nil => rfl
  | cons pair pairs =>
    have hsplit : (encodeQuery (pair :: pairs)).splitOn '&' = (pair :: pairs).map encodePair := by
      refine List.splitOn_intercalate '&' ?_ (by simp)
      intro cs hcs
      obtain ⟨other, -, rfl⟩ := List.mem_map.mp hcs
      exact notMem_encodePair other
    have hne : encodeQuery (pair :: pairs) ≠ [] := by
      intro hnil
      rw [hnil] at hsplit
      have hempty : [] = encodePair pair := by
        rw [List.splitOn_nil, List.map_cons] at hsplit
        exact (List.cons.inj hsplit).1
      simp [encodePair] at hempty
    unfold decodeQuery
    rw [if_neg hne, hsplit, List.map_map]
    exact List.map_id'' decodePair_encodePair _

end DualSleeve.Library.PercentEncoding
