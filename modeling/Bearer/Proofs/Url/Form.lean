import Bearer.Proofs.Text.Pieces
import Bearer.Proofs.Url.Percent
import Bearer.Url.Form
import Bearer.Url.Reader

/-!
Reading forms, as the receiver of a query does: pairs stand between ampersands, a name ends at its first
equals sign, a plus sign is a space and escapes are read. `read_encode` says that escaping a query for
sending changes none of its pairs, `read_append` that an ampersand adds pairs to those in front of it, and
`read_encode_pairs` that a whole form is read as the pairs that it was written for.
-/

namespace Bearer.Form

open Percent hiding encode encodeChar
open Utf8 (countAscii)

def plusAsSpace (c : Char) : Char := if c = '+' then ' ' else c

def readText (cs : List Char) : List Char := decodeText (cs.map plusAsSpace)

/-- Name and value on either side of the first equals sign. -/
def readPair (cs : List Char) : List Char × List Char :=
  (readText (cs.takeWhile (· != '=')), readText ((cs.dropWhile (· != '=')).drop 1))

def read (cs : List Char) : List (List Char × List Char) :=
  ((Text.pieces (· == '&') cs).filter (!·.isEmpty)).map readPair

/-! ### Plus signs -/

theorem plusAsSpace_of_ne {c : Char} (h : c ≠ '+') : plusAsSpace c = c := if_neg h

theorem hexValue?_plusAsSpace (c : Char) : Text.hexValue? (plusAsSpace c) = Text.hexValue? c := by
  unfold plusAsSpace
  split
  next h => subst h; rfl
  next => rfl

theorem plusAsSpace_ne_percent {c : Char} (h : c ≠ '%') : plusAsSpace c ≠ '%' := by
  unfold plusAsSpace
  split
  · decide
  · exact h

theorem countAscii_map_plusAsSpace (cs : List Char) :
    countAscii (cs.map plusAsSpace) = countAscii cs := by
  rw [countAscii, List.countP_map, countAscii]
  congr 1
  funext c
  unfold Function.comp plusAsSpace
  split
  next h => subst h; rfl
  next => rfl

theorem escaped?_map_plusAsSpace (cs : List Char) : escaped? (cs.map plusAsSpace) = escaped? cs := by
  match cs with
  | [] => rfl
  | [_] => rfl
  | a :: b :: cs =>
    simp only [List.map_cons, escaped?, byte?, hexValue?_plusAsSpace]

theorem hasEscape_map_plusAsSpace {cs : List Char} : HasEscape (cs.map plusAsSpace) ↔ HasEscape cs := by
  constructor
  · rintro ⟨front, back, x, same, found⟩
    obtain ⟨front, tail, rfl, rfl, htail⟩ := List.map_eq_append_iff.1 same
    obtain ⟨c, back, rfl, hc, rfl⟩ := List.map_eq_cons_iff.1 htail
    have percent : c = '%' := by
      by_contra other
      exact plusAsSpace_ne_percent other hc
    subst percent
    exact ⟨front, back, x, rfl, escaped?_map_plusAsSpace back ▸ found⟩
  · rintro ⟨front, back, x, rfl, found⟩
    refine ⟨front.map plusAsSpace, back.map plusAsSpace, x, by simp [plusAsSpace], ?_⟩
    rw [escaped?_map_plusAsSpace, found]

theorem countAscii_readText (cs : List Char) :
    countAscii (readText cs) = (decode (cs.map plusAsSpace)).countP Utf8.isAscii :=
  Utf8.countAscii_decodeLossy _

theorem countAscii_readText_le (cs : List Char) : countAscii (readText cs) ≤ countAscii cs := by
  rw [countAscii_readText, ← countAscii_map_plusAsSpace cs]
  exact countP_decode_le _

theorem map_plusAsSpace_eq_self_iff {cs : List Char} : cs.map plusAsSpace = cs ↔ '+' ∉ cs := by
  induction cs with
  | nil => simp
  | cons c cs ih =>
    rw [List.map_cons, List.cons.injEq, ih, List.mem_cons, not_or]
    refine and_congr_left fun _ => ?_
    constructor
    · rintro same rfl
      exact absurd same (by decide)
    · exact fun other => plusAsSpace_of_ne (Ne.symm other)

/-- A text is read as itself if it holds no plus sign and no escape, and not otherwise. -/
theorem readText_eq_self_iff {cs : List Char} : readText cs = cs ↔ '+' ∉ cs ∧ ¬ HasEscape cs := by
  have plain (none : ¬ HasEscape cs) : readText cs = cs.map plusAsSpace := by
    have decoded := decode_of_not_hasEscape (mt hasEscape_map_plusAsSpace.1 none)
    rw [readText, decodeText, decoded, Utf8.decodeLossy_encode]
  constructor
  · intro same
    have none : ¬ HasEscape cs := by
      intro inner
      have less := countP_decode_lt (hasEscape_map_plusAsSpace.2 inner)
      rw [← countAscii_readText, same, countAscii_map_plusAsSpace] at less
      exact Nat.lt_irrefl _ less
    exact ⟨map_plusAsSpace_eq_self_iff.1 ((plain none).symm.trans same), none⟩
  · rintro ⟨noPlus, none⟩
    rw [plain none, map_plusAsSpace_eq_self_iff.2 noPlus]

/-! ### Escaped texts -/

theorem map_escape (c : Char) : (escape c).map plusAsSpace = escape c :=
  map_plusAsSpace_eq_self_iff.2 (not_mem_escape (by decide) (by decide) c)

variable {safe : Char → Bool}

/-- What is no digit starts with no digit once it is escaped. -/
theorem first_of_encodeChar (safe : Char → Bool) {c : Char} (none : Text.hexValue? c = none) :
    ∃ d tail, (Percent.encodeChar safe c).map plusAsSpace = d :: tail ∧ Text.hexValue? d = .none := by
  by_cases kept : (isUnreserved c || safe c) = true
  · exact ⟨_, _, by rw [encodeChar_of_kept kept]; rfl, (hexValue?_plusAsSpace c).trans none⟩
  · obtain ⟨tail, h⟩ := escape_eq_percent_cons c
    exact ⟨'%', tail, by rw [encodeChar_of_not_kept kept, map_escape, h], rfl⟩

theorem escaped?_encode_none {cs : List Char} (h : escaped? cs = none) :
    escaped? ((Percent.encode safe cs).map plusAsSpace) = none := by
  match cs, h with
  | [], _ => rfl
  | a :: cs, h =>
    rw [encode_cons, List.map_append]
    cases ha : Text.hexValue? a with
    | none =>
      obtain ⟨d, tail, start, none⟩ := first_of_encodeChar safe ha
      rw [start, List.cons_append]
      exact escaped?_none_of_first none _
    | some m =>
      rw [encodeChar_of_digit ha]
      match cs, h with
      | [], _ => rfl
      | b :: cs, h =>
        cases hb : Text.hexValue? b with
        | some n => simp [escaped?, byte?, ha, hb] at h
        | none =>
          obtain ⟨d, tail, start, none⟩ := first_of_encodeChar safe hb
          rw [encode_cons, List.map_append, start]
          exact escaped?_none_of_second none _ _

/-- Where percent signs and plus signs are left alone, escaping changes nothing of what is read. -/
theorem decode_map_encode (percent : safe '%' = true) (plus : safe '+' = true) (cs : List Char) :
    decode ((Percent.encode safe cs).map plusAsSpace) = decode (cs.map plusAsSpace) := by
  have keeps {c : Char} (h : safe c = true) (cs : List Char) :
      (Percent.encode safe (c :: cs)).map plusAsSpace =
        plusAsSpace c :: (Percent.encode safe cs).map plusAsSpace := by
    rw [encode_cons, encodeChar_of_kept (by simp [h])]
    rfl
  induction cs using escape_induction with
  | nil => rfl
  | plain c cs plain ih =>
    by_cases kept : (isUnreserved c || safe c) = true
    · rw [encode_cons, encodeChar_of_kept kept, List.singleton_append, List.map_cons, List.map_cons,
        decode_cons_of_ne (plusAsSpace_ne_percent plain),
        decode_cons_of_ne (plusAsSpace_ne_percent plain), ih]
    · have other : c ≠ '+' := by
        rintro rfl
        exact kept (by simp [plus])
      rw [encode_cons, encodeChar_of_not_kept kept, List.map_append, map_escape, decode_escape,
        List.map_cons, plusAsSpace_of_ne other, decode_cons_of_ne plain, ih]
  | escaped cs x found ih =>
    obtain ⟨a, b, rest, rfl, digits⟩ := of_escaped? found
    obtain ⟨⟨m, ha⟩, ⟨n, hb⟩⟩ := of_byte? digits
    have digit {c : Char} {n : Nat} (h : Text.hexValue? c = some n) : plusAsSpace c = c :=
      plusAsSpace_of_ne (by rintro rfl; cases h)
    have sent : (Percent.encode safe (a :: b :: rest)).map plusAsSpace =
        a :: b :: (Percent.encode safe rest).map plusAsSpace := by
      rw [encode_cons, encodeChar_of_digit ha, encode_cons, encodeChar_of_digit hb]
      simp [digit ha, digit hb]
    have own : (a :: b :: rest).map plusAsSpace = a :: b :: rest.map plusAsSpace := by
      simp [digit ha, digit hb]
    have digits (rest : List Char) : escaped? (a :: b :: rest) = some x := digits
    rw [keeps percent, sent, List.map_cons, own]
    exact (decode_percent_some (digits _)).trans
      ((congrArg (x :: ·) ih).trans (decode_percent_some (digits _)).symm)
  | percent cs none ih =>
    rw [keeps percent, List.map_cons]
    exact (decode_percent_none (escaped?_encode_none none)).trans
      ((congrArg (0x25 :: ·) ih).trans
        (decode_percent_none ((escaped?_map_plusAsSpace cs).trans none)).symm)

theorem readText_encode (percent : safe '%' = true) (plus : safe '+' = true) (cs : List Char) :
    readText (Percent.encode safe cs) = readText cs := by
  rw [readText, decodeText, decode_map_encode percent plus]
  rfl

/-- What a text is escaped to that is read as it was. -/
theorem readText_encode_all (cs : List Char) :
    readText (Percent.encode (fun _ => false) cs) = cs := by
  have noPlus : '+' ∉ Percent.encode (fun _ => false) cs :=
    not_mem_encode_all (by decide) (by decide) cs
  rw [readText, map_plusAsSpace_eq_self_iff.2 noPlus, decodeText, decode_encode_all,
    Utf8.decodeLossy_encode]

/-! ### Pairs -/

theorem readPair_encode (percent : safe '%' = true) (plus : safe '+' = true)
    (equals : safe '=' = true) (cs : List Char) :
    readPair (Percent.encode safe cs) = readPair cs := by
  have stops (c : Char) (h : (c != '=') = false) : Percent.encodeChar safe c = [c] := by
    obtain rfl : c = '=' := by simpa using h
    exact encodeChar_of_safe equals
  have others (c : Char) (h : (c != '=') = true) : ∀ d ∈ Percent.encodeChar safe c, (d != '=') = true :=
    fun d member => bne_iff_ne.2 (encodeChar_others (by decide) (by decide) (bne_iff_ne.1 h) member)
  have name : (Percent.encode safe cs).takeWhile (· != '=') =
      Percent.encode safe (cs.takeWhile (· != '=')) := Text.takeWhile_flatMap stops others cs
  have value : ((Percent.encode safe cs).dropWhile (· != '=')).drop 1 =
      Percent.encode safe ((cs.dropWhile (· != '=')).drop 1) := by
    have rest : (Percent.encode safe cs).dropWhile (· != '=') =
        Percent.encode safe (cs.dropWhile (· != '=')) := Text.dropWhile_flatMap stops others cs
    have start := List.head?_dropWhile_not (· != '=') cs
    rw [rest]
    cases found : cs.dropWhile (· != '=') with
    | nil => rfl
    | cons c tail =>
      rw [found] at start
      rw [encode_cons, stops c start]
      rfl
  rw [readPair, name, value, readText_encode percent plus, readText_encode percent plus]
  rfl

/-- Escaping a form for sending changes none of its pairs, if the four signs of forms are kept. -/
theorem read_encode (percent : safe '%' = true) (plus : safe '+' = true) (equals : safe '=' = true)
    (ampersand : safe '&' = true) (cs : List Char) : read (Percent.encode safe cs) = read cs := by
  have cut : Text.pieces (· == '&') (Percent.encode safe cs) =
      (Text.pieces (· == '&') cs).map (Percent.encode safe) := by
    refine Text.pieces_flatMap (fun c h => ?_) (fun c h d member => ?_) cs
    · obtain rfl : c = '&' := by simpa using h
      exact encodeChar_of_safe ampersand
    · exact beq_eq_false_iff_ne.2
        (encodeChar_others (by decide) (by decide) (beq_eq_false_iff_ne.1 h) member)
  rw [read, cut, List.filter_map, List.map_map]
  simp only [Function.comp_def, isEmpty_encode, readPair_encode percent plus equals]
  rfl

theorem read_append (front back : List Char) : read (front ++ '&' :: back) = read front ++ read back := by
  rw [read, Text.pieces_append (by rfl), List.filter_append, List.map_append]
  rfl

theorem read_piece {cs : List Char} (whole : '&' ∉ cs) (some : cs ≠ []) : read cs = [readPair cs] := by
  have one : Text.pieces (· == '&') cs = [cs] := by
    refine Text.pieces_eq_singleton fun c member => beq_eq_false_iff_ne.2 ?_
    rintro rfl
    exact whole member
  simp [read, one, some]

theorem readPair_append {name : List Char} (whole : '=' ∉ name) (value : List Char) :
    readPair (name ++ '=' :: value) = (readText name, readText value) := by
  rw [readPair, Text.takeWhile_ne_append whole, Text.dropWhile_ne_append whole]
  simp

/-! ### A slash at the end -/

theorem readText_concat_ne (cs : List Char) : readText (cs ++ ['/']) ≠ readText cs := by
  intro same
  have count := congrArg countAscii same
  rw [countAscii_readText, countAscii_readText, List.map_append] at count
  have more : decode (cs.map plusAsSpace ++ ['/'].map plusAsSpace) =
      decode (cs.map plusAsSpace) ++ [0x2f] := decode_concat_slash _
  have ascii : Utf8.isAscii 0x2f = true := rfl
  rw [more, List.countP_append, List.countP_singleton, if_pos ascii] at count
  omega

theorem readText_nil : readText [] = [] := Utf8.decodeLossy_encode []

theorem readPair_of_not_mem {cs : List Char} (whole : '=' ∉ cs) : readPair cs = (readText cs, []) := by
  rw [readPair, Text.takeWhile_ne_of_not_mem whole, Text.dropWhile_ne_of_not_mem whole, List.drop_nil,
    readText_nil]

theorem readPair_concat_ne (cs : List Char) : readPair (cs ++ ['/']) ≠ readPair cs := by
  intro same
  by_cases equals : '=' ∈ cs
  · obtain ⟨name, value, rfl, whole⟩ := List.eq_append_cons_of_mem equals
    rw [List.append_assoc, List.cons_append, readPair_append whole, readPair_append whole] at same
    exact readText_concat_ne value (Prod.mk.inj same).2
  · rw [readPair_of_not_mem equals, readPair_of_not_mem (by simpa using equals)] at same
    exact readText_concat_ne cs (Prod.mk.inj same).1

/-- A slash at the end of a form is part of its last pair, or a pair of its own. -/
theorem read_concat_slash (cs : List Char) : ∃ front last,
    read cs = front ++ (if last.isEmpty then [] else [readPair last]) ∧
      read (cs ++ ['/']) = front ++ [readPair (last ++ ['/'])] := by
  obtain ⟨front, last, before, after⟩ := Text.pieces_concat (p := (· == '&')) (c := '/') rfl cs
  refine ⟨(front.filter (!·.isEmpty)).map readPair, last, ?_, ?_⟩
  · rw [read, before, List.filter_append, List.map_append]
    cases last <;> rfl
  · rw [read, after, List.filter_append, List.map_append]
    cases last <;> rfl

theorem read_concat_slash_ne (cs : List Char) : read (cs ++ ['/']) ≠ read cs := by
  obtain ⟨front, last, before, after⟩ := read_concat_slash cs
  rw [before, after]
  intro same
  have same := List.append_cancel_left same
  split at same
  · cases same
  · exact readPair_concat_ne last (List.cons.inj same).1

theorem length_read_le_concat_slash (cs : List Char) :
    (read cs).length ≤ (read (cs ++ ['/'])).length := by
  obtain ⟨front, last, before, after⟩ := read_concat_slash cs
  rw [before, after, List.length_append, List.length_append]
  split <;> simp

/-! ### The last pair -/

theorem countAscii_le_of_mem_read {cs name value : List Char} (member : (name, value) ∈ read cs) :
    countAscii name ≤ countAscii cs := by
  obtain ⟨piece, inPieces, same⟩ := List.mem_map.1 member
  have whole := Text.sublist_of_mem_pieces (List.mem_filter.1 inPieces).1
  obtain rfl := (Prod.mk.inj same).1
  calc countAscii (readText (piece.takeWhile (· != '=')))
      ≤ countAscii (piece.takeWhile (· != '=')) := countAscii_readText_le _
    _ ≤ countAscii piece := (List.takeWhile_sublist _).countP_le
    _ ≤ countAscii cs := whole.countP_le

/-- A name that a character of ASCII is cut off from is no longer read. -/
theorem name_ne_of_cut {front back name : List Char} {mark : Char} (ascii : countAscii [mark] = 1)
    (le : countAscii name ≤ countAscii front ∨ countAscii name ≤ countAscii back) :
    name ≠ front ++ mark :: back := by
  rintro rfl
  rw [countAscii_append, countAscii_cons, ascii] at le
  omega

/-- If a name in front of an equals sign is read back as the name of the last pair, then it holds no
sign that ends a name and nothing that is read as something else. -/
theorem of_last_pair {name value token : List Char} {pairs : List (List Char × List Char)}
    (unmarked : '&' ∉ value) (h : read (name ++ '=' :: value) = pairs ++ [(name, token)]) :
    '&' ∉ name ∧ '=' ∉ name ∧ readText name = name := by
  have noAmpersand : '&' ∉ name := by
    intro marked
    obtain ⟨front, back, cut, whole⟩ := Text.exists_last marked
    have piece : read (back ++ '=' :: value) = [readPair (back ++ '=' :: value)] :=
      read_piece (by simp [whole, unmarked]) (by simp)
    rw [cut, List.append_assoc, List.cons_append, read_append, piece, ← cut] at h
    have last := (List.cons.inj (List.append_inj_right' h rfl)).1
    have name_eq := (Prod.mk.inj last).1
    rw [Text.takeWhile_append_stop value (by rfl)] at name_eq
    refine name_ne_of_cut rfl (.inr ?_) cut
    calc countAscii name = countAscii (readText (back.takeWhile (· != '='))) := by rw [name_eq]
      _ ≤ countAscii (back.takeWhile (· != '=')) := countAscii_readText_le _
      _ ≤ countAscii back := (List.takeWhile_sublist _).countP_le
  have piece : read (name ++ '=' :: value) = [readPair (name ++ '=' :: value)] :=
    read_piece (by simp [noAmpersand, unmarked]) (by simp)
  rw [piece] at h
  have own : readPair (name ++ '=' :: value) = (name, token) := by
    cases pairs with
    | nil => exact (List.cons.inj h).1
    | cons _ _ => simp at h
  have noEquals : '=' ∉ name := by
    intro marked
    obtain ⟨front, back, rfl, whole⟩ := List.eq_append_cons_of_mem marked
    rw [List.append_assoc, List.cons_append, readPair_append whole] at own
    exact name_ne_of_cut rfl (.inl (by rw [← (Prod.mk.inj own).1]; exact countAscii_readText_le _)) rfl
  rw [readPair_append noEquals] at own
  exact ⟨noAmpersand, noEquals, (Prod.mk.inj own).1⟩

/-! ### Whole forms -/

theorem encodeText_cons (c : Char) (cs : List Char) : encodeText (c :: cs) = encodeChar c ++ encodeText cs :=
  List.flatMap_cons

theorem encodeChar_of_ne {c : Char} (h : c ≠ ' ') : encodeChar c = Percent.encodeChar (fun _ => false) c :=
  if_neg h

theorem decode_encodeText (cs : List Char) : decode ((encodeText cs).map plusAsSpace) = Utf8.encode cs := by
  induction cs with
  | nil => rfl
  | cons c cs ih =>
    rw [encodeText_cons, List.map_append, Utf8.encode_cons, ← ih]
    by_cases blank : c = ' '
    · subst blank
      exact decode_cons_of_ne (by decide) _
    rw [encodeChar_of_ne blank]
    by_cases plain : isUnreserved c = true
    · have other : c ≠ '+' := by
        rintro rfl
        cases plain
      rw [encodeChar_of_kept (by simp [plain]), List.map_singleton, plusAsSpace_of_ne other,
        List.singleton_append, decode_cons_of_ne (ne_percent_of_isUnreserved plain)]
    · rw [encodeChar_of_not_kept (by simpa using plain), map_escape, decode_escape]

theorem readText_encodeText (cs : List Char) : readText (encodeText cs) = cs := by
  rw [readText, decodeText, decode_encodeText, Utf8.decodeLossy_encode]

theorem not_mem_encodeText {mark : Char} (marked : isUnreserved mark = false) (notPercent : mark ≠ '%')
    (notPlus : mark ≠ '+') (cs : List Char) : mark ∉ encodeText cs := by
  intro member
  obtain ⟨c, -, member⟩ := List.mem_flatMap.1 member
  by_cases blank : c = ' '
  · rw [encodeChar, if_pos blank, List.mem_singleton] at member
    exact notPlus member
  · rw [encodeChar_of_ne blank] at member
    have member : mark ∈ Percent.encode (fun _ => false) [c] := by simpa [Percent.encode] using member
    exact not_mem_encode_all marked notPercent _ member

theorem read_encodePair (pair : String × String) :
    read (encodePair pair) = [(pair.1.toList, pair.2.toList)] := by
  have noEquals : '=' ∉ encodeText pair.1.toList := not_mem_encodeText (by decide) (by decide) (by decide) _
  have whole : '&' ∉ encodePair pair := by
    have unmarked (cs : List Char) : '&' ∉ encodeText cs :=
      not_mem_encodeText (by decide) (by decide) (by decide) cs
    simp [encodePair, unmarked]
  rw [read_piece whole (by simp [encodePair]), encodePair, readPair_append noEquals, readText_encodeText,
    readText_encodeText]

/-- A form is read as the pairs that it was written for, whatever their names and values hold. -/
theorem read_encode_pairs (pairs : List (String × String)) :
    read (Form.encode pairs).toList = pairs.map fun (name, value) => (name.toList, value.toList) := by
  rw [Form.encode, String.toList_ofList]
  induction pairs with
  | nil => rfl
  | cons pair pairs ih =>
    cases pairs with
    | nil => simpa using read_encodePair pair
    | cons next pairs =>
      rw [List.map_cons, List.map_cons, List.intercalate_cons_cons, List.append_assoc, List.singleton_append,
        read_append, read_encodePair, ← List.map_cons, ih]
      rfl

end Bearer.Form
