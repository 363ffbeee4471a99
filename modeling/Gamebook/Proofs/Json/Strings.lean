import Gamebook.Json.Reader
import Gamebook.Json.Writer
import Gamebook.Proofs.Outcome
import Gamebook.Proofs.Text.Digits
import Gamebook.Proofs.Text.Plain

/-!
Strings are read as they were written: every escape stands for the sign it was made of.
-/
namespace Gamebook

namespace Text

theorem hexValue?_digitChar {digit : Nat} (bound : digit < 16) :
    hexValue? digit.digitChar = some digit := by
  have all : ∀ digit : Fin 16, hexValue? digit.val.digitChar = some digit.val := by decide
  exact all ⟨digit, bound⟩

theorem hexDigits_four {code : Nat} (bound : code < 65536) : hexDigits 4 code =
    [(code / 4096).digitChar, (code / 256 % 16).digitChar, (code / 16 % 16).digitChar,
      (code % 16).digitChar] := by
  have bound : code / 16 / 16 / 16 < 16 := by omega
  change paddedIn 16 4 code = _
  rw [paddedIn_succ (by decide), paddedIn_succ (by decide), paddedIn_succ (by decide),
    paddedIn_one bound]
  simp [Nat.div_div_eq_div_mul]

end Text

namespace Json

theorem readHex?_hexDigits {code : Nat} (bound : code < 65536) (rest : List Char) :
    readHex? (Text.hexDigits 4 code ++ rest) = some (code, rest) := by
  rw [Text.hexDigits_four bound]
  simp only [readHex?, List.cons_append, List.nil_append]
  rw [Text.hexValue?_digitChar (by omega), Text.hexValue?_digitChar (by omega),
    Text.hexValue?_digitChar (by omega), Text.hexValue?_digitChar (by omega)]
  simp only [Option.bind_eq_bind, Option.bind_some, Option.pure_def, Option.some.injEq,
    Prod.mk.injEq, and_true]
  omega

theorem readUnicode?_plain {code : Nat} (bound : code < 0x10000) (whole : Text.isHalf code = false)
    (rest : List Char) :
    readUnicode? (Text.hexDigits 4 code ++ rest) = some ([Char.ofNat code], rest) := by
  simp only [Text.isHalf, Bool.and_eq_false_iff, decide_eq_false_iff_not] at whole
  simp only [readUnicode?, readHex?_hexDigits bound, Option.bind_eq_bind, Option.bind_some]
  rw [if_neg (by simp; omega), if_neg (by simp; omega)]
  rfl

theorem readUnicode?_half {code : Nat} (half : Text.isHalf code = true) {rest : List Char}
    (alone : code < 0xdc00 → readLowHalf? rest = none) :
    readUnicode? (Text.hexDigits 4 code ++ rest) = some (Text.spellHalf code, rest) := by
  simp only [Text.isHalf, Bool.and_eq_true, decide_eq_true_eq] at half
  simp only [readUnicode?, readHex?_hexDigits (show code < 65536 by omega), Option.bind_eq_bind,
    Option.bind_some]
  by_cases high : code < 0xdc00
  · have first : (decide (0xd800 ≤ code) && decide (code < 0xdc00)) = true := by simp [half, high]
    rw [if_pos first, alone high]
    simp only [Option.pure_def]
  · have second : (decide (0xdc00 ≤ code) && decide (code < 0xe000)) = true := by
      simp only [Bool.and_eq_true, decide_eq_true_eq]
      omega
    rw [if_neg (by simp [high]), if_pos second]
    simp only [Option.pure_def]

theorem readLowHalf?_low {low : Nat} (bound : low < 0x400) (rest : List Char) :
    readLowHalf? (unicodeEscape (0xdc00 + low) ++ rest) = some (low, rest) := by
  have inside : (decide (0xdc00 ≤ 0xdc00 + low) && decide (0xdc00 + low < 0xe000)) = true := by
    simp only [Bool.and_eq_true, decide_eq_true_eq]
    omega
  simp only [unicodeEscape, List.cons_append, readLowHalf?,
    readHex?_hexDigits (show 0xdc00 + low < 65536 by omega), Option.bind_eq_bind, Option.bind_some]
  rw [if_pos inside, Nat.add_sub_cancel_left]

theorem readUnicode?_pair {high low : Nat} (highBound : high < 0x400) (lowBound : low < 0x400)
    (rest : List Char) :
    readUnicode? (Text.hexDigits 4 (0xd800 + high) ++ (unicodeEscape (0xdc00 + low) ++ rest)) =
      some (Text.spellChar (Char.ofNat (0x10000 + high * 0x400 + low)), rest) := by
  have inside : (decide (0xd800 ≤ 0xd800 + high) && decide (0xd800 + high < 0xdc00)) = true := by
    simp only [Bool.and_eq_true, decide_eq_true_eq]
    omega
  simp only [readUnicode?, readHex?_hexDigits (show 0xd800 + high < 65536 by omega),
    Option.bind_eq_bind, Option.bind_some, readLowHalf?_low lowBound]
  rw [if_pos inside, Nat.add_sub_cancel_left]
  simp only [Option.pure_def]

theorem readChar_unicode {text sign rest : List Char} (found : readUnicode? text = some (sign, rest)) :
    readChar ('\\' :: 'u' :: text) = .ok (some sign, rest) := by
  simp only [readChar, found]

theorem readChar_escape {code : Nat} {sign after rest : List Char}
    (found : readUnicode? (Text.hexDigits 4 code ++ rest) = some (sign, after)) :
    readChar (unicodeEscape code ++ rest) = .ok (some sign, after) :=
  readChar_unicode found

theorem readChar_escapeUnits {c : Char} (rest : List Char) :
    readChar (escapeUnits c.toNat ++ rest) = .ok (some (Text.spellChar c), rest) := by
  have valid : c.toNat.isValidChar := c.valid
  unfold escapeUnits
  split
  · rename_i small
    have whole : Text.isHalf c.toNat = false := by
      rcases valid with below | above
      · simp [Text.isHalf]
        omega
      · simp [Text.isHalf]
        omega
    have apart : c ≠ Text.mark := by
      rintro rfl
      exact absurd small (by decide)
    rw [readChar_escape (readUnicode?_plain small whole rest), Char.ofNat_toNat, Text.spellChar,
      if_neg apart]
  · have high : (c.toNat - 0x10000) / 0x400 < 0x400 := by
      rcases valid with below | above <;> omega
    have low : (c.toNat - 0x10000) % 0x400 < 0x400 := Nat.mod_lt _ (by decide)
    have code : 0x10000 + (c.toNat - 0x10000) / 0x400 * 0x400 + (c.toNat - 0x10000) % 0x400 =
        c.toNat := by omega
    rw [List.append_assoc, readChar_escape (readUnicode?_pair high low rest), code,
      Char.ofNat_toNat]

/-- A character is written by an escape of its own, as it is, or by its units. -/
theorem writeChar_cases (c : Char) :
    (∃ escape, writeChar c = ['\\', escape] ∧ simpleEscape? escape = some c ∧ escape ≠ 'u') ∨
      (writeChar c = [c] ∧ c ≠ '"' ∧ c ≠ '\\' ∧ 32 ≤ c.toNat) ∨
      writeChar c = escapeUnits c.toNat := by
  unfold writeChar
  split
  · rename_i quoted
    simp only [Bool.or_eq_true, decide_eq_true_eq] at quoted
    rcases quoted with rfl | rfl
    · exact .inl ⟨_, rfl, rfl, by decide⟩
    · exact .inl ⟨_, rfl, rfl, by decide⟩
  rename_i special
  simp only [Bool.or_eq_true, decide_eq_true_eq, not_or] at special
  split
  · rename_i same
    exact .inl ⟨_, rfl, congrArg some same.symm, by decide⟩
  split
  · rename_i same
    exact .inl ⟨_, rfl, congrArg some same.symm, by decide⟩
  split
  · rename_i same
    exact .inl ⟨_, rfl, congrArg some same.symm, by decide⟩
  split
  · rename_i same
    exact .inl ⟨_, rfl, congrArg some same.symm, by decide⟩
  split
  · rename_i same
    exact .inl ⟨_, rfl, congrArg some same.symm, by decide⟩
  split
  · rename_i shown
    simp only [Bool.and_eq_true, decide_eq_true_eq] at shown
    exact .inr (.inl ⟨rfl, special.1, special.2, shown.1⟩)
  · exact .inr (.inr rfl)

theorem readChar_simple {escape c : Char} (found : simpleEscape? escape = some c)
    (other : escape ≠ 'u') (rest : List Char) :
    readChar ('\\' :: escape :: rest) = .ok (some [c], rest) := by
  unfold readChar
  split
  · rename_i same
    cases same
  · rename_i same
    exact absurd (List.cons.inj (List.cons.inj same).2).1 other
  · rename_i same
    obtain ⟨rfl, rfl⟩ := List.cons.inj (List.cons.inj same).2
    rw [found]
  · rename_i differs same
    obtain ⟨rfl, rfl⟩ := List.cons.inj same
    exact (differs _ _ rfl rfl).elim
  · rename_i same
    cases same

theorem readChar_plain {c : Char} (unquoted : c ≠ '"') (unescaped : c ≠ '\\') (shown : 32 ≤ c.toNat)
    (rest : List Char) : readChar (c :: rest) = .ok (some [c], rest) := by
  unfold readChar
  split
  · rename_i same
    exact absurd (List.cons.inj same).1 unquoted
  · rename_i same
    exact absurd (List.cons.inj same).1 unescaped
  · rename_i same
    exact absurd (List.cons.inj same).1 unescaped
  · rename_i same
    obtain ⟨rfl, rfl⟩ := List.cons.inj same
    have fine : ¬ (decide (c.toNat < 32) || decide (c = '\\')) = true := by
      simp only [Bool.or_eq_true, decide_eq_true_eq, not_or]
      exact ⟨by omega, unescaped⟩
    rw [if_neg fine]
  · rename_i same
    cases same

theorem readChar_writeChar {c : Char} (apart : c ≠ Text.mark) (rest : List Char) :
    readChar (writeChar c ++ rest) = .ok (some [c], rest) := by
  rcases writeChar_cases c with ⟨escape, written, found, other⟩ | ⟨written, unquoted, unescaped, shown⟩ |
    written
  · rw [written]
    exact readChar_simple found other rest
  · rw [written]
    exact readChar_plain unquoted unescaped shown rest
  · rw [written, readChar_escapeUnits, Text.spellChar, if_neg apart]

theorem writeSign_half {code : Nat} (half : Text.isHalf code = true) :
    writeSign (Text.spellHalf code) = unicodeEscape code := by
  have small : code < 0x10000 := by
    simp only [Text.isHalf, Bool.and_eq_true, decide_eq_true_eq] at half
    omega
  have code_eq : Text.codeOf (Text.spellHalf code) = code := by
    rw [Text.codeOf, Text.half?_spellHalf half, Option.getD_some]
  change escapeUnits (Text.codeOf (Text.spellHalf code)) = _
  rw [code_eq, escapeUnits, if_pos small]

theorem writeSign_mark : writeSign [Text.mark, Text.mark] = escapeUnits Text.mark.toNat := rfl

theorem readChar_writeSign {sign : List Char} (good : Text.isSign sign = true) {rest : List Char}
    (alone : Text.isHigh sign = true → readLowHalf? rest = none) :
    readChar (writeSign sign ++ rest) = .ok (some sign, rest) := by
  rcases Text.isSign_iff.mp good with ⟨c, rfl, apart⟩ | rfl | ⟨code, half, rfl⟩
  · exact readChar_writeChar apart rest
  · rw [writeSign_mark, readChar_escapeUnits]
    rfl
  · rw [writeSign_half half, readChar_escape (readUnicode?_half half fun high => ?_)]
    refine alone ?_
    rw [Text.isHigh, Text.half?_spellHalf half]
    simpa using high

theorem readLowHalf?_escape {code : Nat} (bound : code < 0x10000)
    (other : ¬ (0xdc00 ≤ code ∧ code < 0xe000)) (rest : List Char) :
    readLowHalf? (unicodeEscape code ++ rest) = none := by
  have outside : ¬ (decide (0xdc00 ≤ code) && decide (code < 0xe000)) = true := by
    simpa only [Bool.and_eq_true, decide_eq_true_eq] using other
  simp only [unicodeEscape, List.cons_append, readLowHalf?, readHex?_hexDigits bound,
    Option.bind_eq_bind, Option.bind_some]
  rw [if_neg outside]

theorem readLowHalf?_escapeUnits (c : Char) (rest : List Char) :
    readLowHalf? (escapeUnits c.toNat ++ rest) = none := by
  have valid : c.toNat.isValidChar := c.valid
  unfold escapeUnits
  split
  · rename_i small
    exact readLowHalf?_escape small (by rcases valid with below | above <;> omega) rest
  · have high : (c.toNat - 0x10000) / 0x400 < 0x400 := by
      rcases valid with below | above <;> omega
    rw [List.append_assoc]
    exact readLowHalf?_escape (by omega) (by omega) _

/-- What is written for a sign other than a second half is not read as one. -/
theorem readLowHalf?_writeSign {sign : List Char} (good : Text.isSign sign = true)
    (other : Text.isLow sign = false) (rest : List Char) :
    readLowHalf? (writeSign sign ++ rest) = none := by
  rcases Text.isSign_iff.mp good with ⟨c, rfl, apart⟩ | rfl | ⟨code, half, rfl⟩
  · rcases writeChar_cases c with ⟨escape, written, _, plain⟩ | ⟨written, _, unescaped, _⟩ | written
    · rw [writeSign, written]
      unfold readLowHalf?
      split
      · rename_i same
        exact absurd (List.cons.inj (List.cons.inj same).2).1 plain
      · rfl
    · rw [writeSign, written]
      unfold readLowHalf?
      split
      · rename_i same
        exact absurd (List.cons.inj same).1 unescaped
      · rfl
    · rw [writeSign, written]
      exact readLowHalf?_escapeUnits c rest
  · rw [writeSign_mark]
    exact readLowHalf?_escapeUnits Text.mark rest
  · rw [writeSign_half half]
    rw [Text.isLow, Text.half?_spellHalf half] at other
    simp only [Option.any_some, decide_eq_false_iff_not] at other
    simp only [Text.isHalf, Bool.and_eq_true, decide_eq_true_eq] at half
    exact readLowHalf?_escape (by omega) (by omega) rest

theorem readString_signs {signs : List (List Char)} (spelled : Text.isSpelled signs = true)
    (rest : List Char) {fuel : Nat} (enough : signs.length < fuel) :
    readString fuel (signs.flatMap writeSign ++ '"' :: rest) = .ok (signs.flatten, rest) := by
  induction signs generalizing fuel with
  | nil =>
    obtain ⟨fuel, rfl⟩ := Nat.exists_eq_add_of_lt enough
    rfl
  | cons sign signs ih =>
    simp only [Text.isSpelled, Bool.and_eq_true, Bool.not_eq_true'] at spelled
    obtain ⟨⟨good, apart⟩, others⟩ := spelled
    obtain ⟨fuel, rfl⟩ : ∃ less, fuel = less + 1 := ⟨fuel - 1, by omega⟩
    have alone : Text.isHigh sign = true →
        readLowHalf? (signs.flatMap writeSign ++ '"' :: rest) = none := by
      intro high
      rw [high, Bool.true_and] at apart
      cases signs with
      | nil => rfl
      | cons next signs =>
        simp only [Text.isSpelled, Bool.and_eq_true] at others
        rw [List.flatMap_cons, List.append_assoc]
        exact readLowHalf?_writeSign others.1.1 (by simpa using apart) _
    rw [List.flatMap_cons, List.append_assoc, readString, readChar_writeSign good alone]
    exact bind_eq_ok.mpr ⟨_, rfl, bind_eq_ok.mpr ⟨_, ih others (by simpa using enough), rfl⟩⟩

end Json
end Gamebook
