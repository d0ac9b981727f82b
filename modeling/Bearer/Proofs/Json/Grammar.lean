import Bearer.Proofs.Json.Likeness
import Bearer.Proofs.Number.Integer

/-!
The grammar of JSON. `Denotes` says which text stands for which value, with white space where the grammar
has it, in every spelling of strings and numbers. The reader takes each text for the value that it denotes
(`read_of_denotes`).
-/

namespace Bearer.Json

def Blanks (cs : List Char) : Prop := ∀ c ∈ cs, isBlank c = true

/-! ### The grammar of numbers -/

/-- Digits in front of a point: a zero alone, or digits that do not start with one. -/
inductive WholeDigits : List Char → Prop
  | zero : WholeDigits ['0']
  | digits {c : Char} {ds : List Char} (first : c ≠ '0') (all : ∀ d ∈ c :: ds, d.isDigit = true) :
    WholeDigits (c :: ds)

inductive FractionMark : List Char → List Char → Prop
  | none : FractionMark [] []
  | some {ds : List Char} (some : ds ≠ []) (all : ∀ d ∈ ds, d.isDigit = true) : FractionMark ('.' :: ds) ds

inductive ExponentMark : List Char → Option Int → Prop
  | none : ExponentMark [] none
  | some {e : Char} {sign ds : List Char} {negative : Bool} (mark : e = 'e' ∨ e = 'E')
    (signed : SignMark sign negative) (some : ds ≠ []) (all : ∀ d ∈ ds, d.isDigit = true) :
    ExponentMark (e :: (sign ++ ds)) (.some (signedInt negative (ofDigits ds)))

def minusMark (negative : Bool) : List Char := if negative then ['-'] else []

/-- Integers have no more digits than are read; every other number is the double nearest to it. -/
inductive WritesNumber : List Char → Value → Prop
  | integer (negative : Bool) {ds : List Char} (whole : WholeDigits ds) (few : ds.length ≤ maxDigits) :
    WritesNumber (minusMark negative ++ ds) (.int (signedInt negative (ofDigits ds)))
  | decimal (negative : Bool) {ds fraction part exponent : List Char} {power : Option Int}
    (whole : WholeDigits ds) (fractional : FractionMark fraction part)
    (exponential : ExponentMark exponent power) (some : fraction ≠ [] ∨ exponent ≠ []) :
    WritesNumber (minusMark negative ++ (ds ++ (fraction ++ exponent)))
      (.double (Double.ofDecimal negative (ofDigits (ds ++ part)) (power.getD 0 - part.length)))

/-! ### The grammar of values -/

def wordValues : List (String × Value) := [("null", .null), ("true", .bool true), ("false", .bool false)]

inductive Flat : List Char → Value → Prop
  | word {word : String} {v : Value} (known : (word, v) ∈ wordValues) : Flat word.toList v
  | number {text : List Char} {v : Value} (writes : WritesNumber text v) : Flat text v
  | string {body : List Char} {ps : List CodePoint} (spells : Spells body ps) :
    Flat ('"' :: (body ++ ['"'])) (.str (.ofPoints ps))

inductive Separated (item : List Char → α → Prop) : List Char → List α → Prop
  | one {front text back : List Char} {x : α} (before : Blanks front) (first : item text x)
    (behind : Blanks back) : Separated item (front ++ (text ++ back)) [x]
  | more {front text back later : List Char} {x : α} {xs : List α} (before : Blanks front)
    (first : item text x) (behind : Blanks back) (rest : Separated item later xs) :
    Separated item (front ++ (text ++ (back ++ ',' :: later))) (x :: xs)

inductive WritesMember (value : List Char → Value → Prop) : List Char → RawText × Value → Prop
  | intro {body back front text : List Char} {ps : List CodePoint} {v : Value}
    (name : Spells body ps) (behind : Blanks back) (before : Blanks front) (writes : value text v) :
    WritesMember value ('"' :: (body ++ '"' :: (back ++ ':' :: (front ++ text)))) (.ofPoints ps, v)

inductive Holding (inner : List Char → Value → Prop) : List Char → Value → Prop
  | flat {text : List Char} {v : Value} (flat : Flat text v) : Holding inner text v
  | noItems {blanks : List Char} (blank : Blanks blanks) : Holding inner ('[' :: (blanks ++ [']'])) (.arr [])
  | items {text : List Char} {vs : List Value} (items : Separated inner text vs) :
    Holding inner ('[' :: (text ++ [']'])) (.arr vs)
  | noMembers {blanks : List Char} (blank : Blanks blanks) :
    Holding inner ('\x7b' :: (blanks ++ ['\x7d'])) (.obj [])
  | members {text : List Char} {ms : List (RawText × Value)}
    (members : Separated (WritesMember inner) text ms) :
    Holding inner ('\x7b' :: (text ++ ['\x7d'])) (.obj ms)

/-- A value with containers nested no deeper than `depth`. -/
def WritesValue : (depth : Nat) → List Char → Value → Prop
  | 0 => Flat
  | depth + 1 => Holding (WritesValue depth)

inductive Denotes (depth : Nat) : List Char → Value → Prop
  | intro {front text back : List Char} {v : Value} (before : Blanks front)
    (writes : WritesValue depth text v) (behind : Blanks back) : Denotes depth (front ++ (text ++ back)) v

theorem writesValue_of_flat (depth : Nat) {text : List Char} {v : Value} (flat : Flat text v) :
    WritesValue depth text v := by
  cases depth with
  | zero => exact flat
  | succ depth => exact .flat flat

theorem flat_of_writes {body text : List Char} (writes : Writes body text) :
    Flat ('"' :: (body ++ ['"'])) (.str (.whole (String.ofList text))) := by
  have flat := Flat.string (spells_of_writes writes)
  rwa [RawText.ofPoints_chars] at flat

theorem writesMember_of_writes {value : List Char → Value → Prop} {body name back front text : List Char}
    {v : Value} (writes : Writes body name) (behind : Blanks back) (before : Blanks front) (of : value text v) :
    WritesMember value ('"' :: (body ++ '"' :: (back ++ ':' :: (front ++ text))))
      (.whole (String.ofList name), v) := by
  have member := WritesMember.intro (spells_of_writes writes) behind before of
  rwa [RawText.ofPoints_chars] at member

/-! ### White space -/

theorem skipBlanks_append {blanks rest : List Char} (blank : Blanks blanks)
    (stop : ∀ c ∈ rest.head?, isBlank c = false) : skipBlanks (blanks ++ rest) = rest := by
  unfold skipBlanks
  rw [List.dropWhile_append_of_pos blank]
  cases rest with
  | nil => rfl
  | cons c rest => exact List.dropWhile_cons_of_neg (by simpa using stop c rfl)

/-- What may stand behind a value: white space, a comma, a closing bracket or nothing. -/
def Ends (rest : List Char) : Prop :=
  ∀ c ∈ rest.head?, isBlank c = true ∨ c = ',' ∨ c = ']' ∨ c = '\x7d'

theorem ends_append {blanks rest : List Char} (blank : Blanks blanks) (ends : Ends rest) :
    Ends (blanks ++ rest) := by
  cases blanks with
  | nil => exact ends
  | cons c blanks =>
    rintro d first
    obtain rfl := Option.some.inj first
    exact .inl (blank c List.mem_cons_self)

/-! ### Numbers -/

def NoDigit (cs : List Char) : Prop := ∀ c ∈ cs.head?, c.isDigit = false

section

variable {ds fraction part exponent rest : List Char} {power : Option Int}

theorem digits_append (all : ∀ d ∈ ds, d.isDigit = true) (stop : NoDigit rest) :
    digits (ds ++ rest) = (ds, rest) := by
  unfold digits
  rw [List.takeWhile_append_of_pos all, List.dropWhile_append_of_pos all]
  cases rest with
  | nil => rw [List.takeWhile_nil, List.dropWhile_nil, List.append_nil]
  | cons c rest =>
    have other : ¬ c.isDigit = true := by simpa using stop c rfl
    rw [List.takeWhile_cons_of_neg other, List.dropWhile_cons_of_neg other, List.append_nil]

theorem isDigit_of_isBlank {c : Char} (blank : isBlank c = true) : c.isDigit = false := by
  simp only [isBlank, Bool.or_eq_true, beq_iff_eq] at blank
  rcases blank with ((rfl | rfl) | rfl) | rfl <;> rfl

theorem noDigit_of_ends (ends : Ends rest) : NoDigit rest := by
  intro c first
  rcases ends c first with blank | rfl | rfl | rfl
  · exact isDigit_of_isBlank blank
  all_goals rfl

theorem head?_ne_of_ends (ends : Ends rest) {c : Char} (blank : isBlank c = false) (comma : c ≠ ',')
    (bracket : c ≠ ']') (brace : c ≠ '\x7d') : rest.head? ≠ some c := by
  intro first
  rcases ends c first with space | same | same | same
  · cases space.symm.trans blank
  · exact comma same
  · exact bracket same
  · exact brace same

theorem noDigit_exponent (exponential : ExponentMark exponent power) (ends : Ends rest) :
    NoDigit (exponent ++ rest) := by
  cases exponential with
  | none => exact noDigit_of_ends ends
  | some mark =>
    rintro c first
    obtain rfl := Option.some.inj first
    rcases mark with rfl | rfl <;> rfl

theorem noDigit_fraction (fractional : FractionMark fraction part) (stop : NoDigit rest) :
    NoDigit (fraction ++ rest) := by
  cases fractional with
  | none => exact stop
  | some =>
    rintro c first
    obtain rfl := Option.some.inj first
    rfl

theorem exponent_append (exponential : ExponentMark exponent power) (ends : Ends rest) :
    Json.exponent (exponent ++ rest) = (power, rest) := by
  cases exponential with
  | none =>
    cases rest with
    | nil => rfl
    | cons c rest =>
      have small : (c :: rest).head? ≠ some 'e' :=
        head?_ne_of_ends ends (by decide) (by decide) (by decide) (by decide)
      have big : (c :: rest).head? ≠ some 'E' :=
        head?_ne_of_ends ends (by decide) (by decide) (by decide) (by decide)
      rw [List.nil_append, exponent_cons, if_neg]
      rintro ⟨rfl | rfl, -⟩
      · exact small rfl
      · exact big rfl
  | @some e sign ds negative mark signed some all =>
    have taken : takeSign (sign ++ (ds ++ rest)) = (negative, ds ++ rest) := by
      cases signed with
      | none =>
        obtain ⟨d, ds, rfl⟩ := List.exists_cons_of_ne_nil some
        have digit := all d List.mem_cons_self
        apply takeSign_other
        · rintro rfl
          cases digit
        · rintro rfl
          cases digit
      | plus => rfl
      | minus => rfl
    rw [List.cons_append, List.append_assoc, exponent_cons, taken, digits_append all (noDigit_of_ends ends)]
    exact if_pos ⟨mark, some⟩

theorem fraction_append (fractional : FractionMark fraction part) (stop : NoDigit rest)
    (point : rest.head? ≠ some '.') : Json.fraction (fraction ++ rest) = (part, rest) := by
  cases fractional with
  | none =>
    cases rest with
    | nil => rfl
    | cons c rest => exact fraction_other (by simpa using point) rest
  | some some all =>
    rw [List.cons_append, fraction_point, digits_append all stop]
    exact if_neg some

theorem wholePart?_append (whole : WholeDigits ds) (stop : NoDigit rest) :
    wholePart? (ds ++ rest) = some (ds, rest) := by
  cases whole with
  | zero => rfl
  | @digits c ds first all =>
    have taken := digits_append all stop
    rw [List.cons_append] at taken ⊢
    unfold wholePart?
    split
    next same => exact absurd (List.cons.inj same).1 first
    next same =>
      obtain ⟨rfl, rfl⟩ := List.cons.inj same
      rw [if_pos (all _ List.mem_cons_self), taken]
    next none => cases none

theorem WholeDigits.first (whole : WholeDigits ds) : ∃ c more, ds = c :: more ∧ c.isDigit = true := by
  cases whole with
  | zero => exact ⟨'0', [], rfl, rfl⟩
  | @digits c ds _ all => exact ⟨c, ds, rfl, all c List.mem_cons_self⟩

theorem takeMinus_append (negative : Bool) (whole : WholeDigits ds) (rest : List Char) :
    takeMinus (minusMark negative ++ (ds ++ rest)) = (negative, ds ++ rest) := by
  cases negative with
  | true => rfl
  | false =>
    obtain ⟨c, more, rfl, digit⟩ := whole.first
    show takeMinus (c :: (more ++ rest)) = _
    unfold takeMinus
    split
    next same =>
      obtain ⟨rfl, -⟩ := List.cons.inj same
      cases digit
    next => rfl

/-- The parts of a number are found as they are written. -/
theorem number?_append (negative : Bool) (whole : WholeDigits ds) (fractional : FractionMark fraction part)
    (exponential : ExponentMark exponent power) (ends : Ends rest) :
    number? (minusMark negative ++ (ds ++ (fraction ++ (exponent ++ rest)))) =
      some (numberOf negative ds part power, rest) := by
  have behind := noDigit_exponent exponential ends
  have point : (exponent ++ rest).head? ≠ some '.' := by
    cases exponential with
    | none => exact head?_ne_of_ends ends (by decide) (by decide) (by decide) (by decide)
    | some mark =>
      rcases mark with rfl | rfl <;> exact fun same => by cases same
  rw [number?_eq, takeMinus_append negative whole, wholePart?_append whole (noDigit_fraction fractional behind),
    Option.map_some, fraction_append fractional behind point, exponent_append exponential ends]

end

theorem WritesNumber.first {text : List Char} {v : Value} (writes : WritesNumber text v) :
    ∃ c more, text = c :: more ∧
      (c.isDigit = true ∨ c = '-' ∧ ∃ d later, more = d :: later ∧ d.isDigit = true) := by
  have start (negative : Bool) {ds : List Char} (whole : WholeDigits ds) (rest : List Char) :
      ∃ c more, minusMark negative ++ (ds ++ rest) = c :: more ∧
        (c.isDigit = true ∨ c = '-' ∧ ∃ d later, more = d :: later ∧ d.isDigit = true) := by
    obtain ⟨d, later, rfl, digit⟩ := whole.first
    cases negative with
    | false => exact ⟨d, later ++ rest, rfl, .inl digit⟩
    | true => exact ⟨'-', d :: (later ++ rest), rfl, .inr ⟨rfl, d, later ++ rest, rfl, digit⟩⟩
  cases writes with
  | integer negative whole _ =>
    have found := start negative whole []
    rwa [List.append_nil] at found
  | decimal negative whole _ _ _ => exact start negative whole _

theorem number?_of_writes {text rest : List Char} {v : Value} (writes : WritesNumber text v)
    (ends : Ends rest) : number? (text ++ rest) = some (.ok v, rest) := by
  cases writes with
  | @integer negative ds whole few =>
    have found := number?_append negative whole .none .none ends
    have short : numberOf negative ds [] none = .ok (.int (signedInt negative (ofDigits ds))) :=
      (if_pos rfl).trans (if_neg (Nat.not_lt.2 few))
    rw [List.append_assoc]
    exact short ▸ found
  | @decimal negative ds fraction part exponent power whole fractional exponential some =>
    have found := number?_append negative whole fractional exponential ends
    simp only [List.append_assoc] at found ⊢
    refine found.trans ?_
    have marked : ¬ (part.isEmpty && power.isNone) = true := by
      cases fractional with
      | some nonempty _ => simp [nonempty]
      | none =>
        cases exponential with
        | none => simp at some
        | some => simp
    rw [numberOf, if_neg marked]

/-! ### Flat values -/

/-- A number is none of the words. -/
theorem words_of_number {text rest : List Char} {v : Value} (writes : WritesNumber text v) :
    (namedValues.findSome? fun (word, v) => (after? word.toList (text ++ rest)).map (v, ·)) = none := by
  obtain ⟨c, more, rfl, digit | ⟨rfl, d, later, rfl, digit⟩⟩ := writes.first
  · have other (w : Char) (letter : w.isDigit = false) : w ≠ c := by
      rintro rfl
      cases letter.symm.trans digit
    simp [namedValues, after?, other 'n' rfl, other 't' rfl, other 'f' rfl, other 'N' rfl, other 'I' rfl,
      other '-' rfl]
  · have other : 'I' ≠ d := by
      rintro rfl
      cases digit
    simp [namedValues, after?, other]

/-! ### Values -/

def opensValue (c : Char) : Bool :=
  c == '"' || c == '[' || c == '\x7b' || c == '-' || c.isDigit || c == 'n' || c == 't' || c == 'f'

theorem not_opensValue {c : Char} (opens : opensValue c = true) :
    isBlank c = false ∧ c ≠ ']' ∧ c ≠ '\x7d' ∧ c ≠ '\ufeff' := by
  refine ⟨?_, ?_, ?_, ?_⟩
  · cases blank : isBlank c with
    | false => rfl
    | true =>
      simp only [isBlank, Bool.or_eq_true, beq_iff_eq] at blank
      rcases blank with ((rfl | rfl) | rfl) | rfl <;> cases opens
  all_goals
    rintro rfl
    cases opens

theorem Flat.opens {text : List Char} {v : Value} (flat : Flat text v) :
    ∃ c more, text = c :: more ∧ opensValue c = true := by
  cases flat with
  | word known =>
    simp only [wordValues, List.mem_cons, Prod.mk.injEq, List.not_mem_nil, or_false] at known
    rcases known with ⟨rfl, -⟩ | ⟨rfl, -⟩ | ⟨rfl, -⟩ <;> exact ⟨_, _, rfl, rfl⟩
  | string => exact ⟨_, _, rfl, rfl⟩
  | number writes =>
    obtain ⟨c, more, rfl, digit | ⟨rfl, -⟩⟩ := writes.first
    · exact ⟨c, more, rfl, by simp [opensValue, digit]⟩
    · exact ⟨'-', more, rfl, rfl⟩

theorem opens_value (depth : Nat) (text : List Char) (v : Value) (writes : WritesValue depth text v) :
    ∃ c more, text = c :: more ∧ opensValue c = true := by
  cases depth with
  | zero => exact Flat.opens writes
  | succ depth =>
    cases writes with
    | flat flat => exact flat.opens
    | noItems => exact ⟨_, _, rfl, rfl⟩
    | items => exact ⟨_, _, rfl, rfl⟩
    | noMembers => exact ⟨_, _, rfl, rfl⟩
    | members => exact ⟨_, _, rfl, rfl⟩

/-- A value in front of what may stand behind it is read, and nothing more. -/
def Reads (read : (cs : List Char) → From cs α) (text : List Char) (x : α) : Prop :=
  ∀ rest, Ends rest → ∃ shorter, read (text ++ rest) = .ok (x, ⟨rest, shorter⟩)

/-- It is read behind white space, too. -/
theorem Reads.skipped {read : (cs : List Char) → From cs α} {text cs rest : List Char} {x : α}
    (reads : Reads read text x) (start : skipBlanks cs = text ++ rest) (ends : Ends rest) :
    ∃ shorter, read (skipBlanks cs) = .ok (x, ⟨rest, shorter⟩) := by
  rw [start]
  exact reads rest ends

section

variable {text : List Char} {v : Value}

theorem reads_scalar (depth : Nat) {c : Char} {more : List Char} (first : text = c :: more)
    (quote : c ≠ '"') (bracket : c ≠ '[') (brace : c ≠ '\x7b')
    (read : ∀ rest, Ends rest → scalar (text ++ rest) = .ok (v, rest)) : Reads (valueFrom depth) text v := by
  subst first
  intro rest ends
  rw [valueFrom_scalar (by simpa using quote) (by simpa using bracket) (by simpa using brace)]
  exact scalarFrom_ok (read rest ends)

theorem reads_word (depth : Nat) {word : String} (known : (word, v) ∈ wordValues) :
    Reads (valueFrom depth) word.toList v := by
  simp only [wordValues, List.mem_cons, Prod.mk.injEq, List.not_mem_nil, or_false] at known
  rcases known with ⟨rfl, rfl⟩ | ⟨rfl, rfl⟩ | ⟨rfl, rfl⟩ <;>
    exact reads_scalar depth rfl (by decide) (by decide) (by decide) fun rest _ => rfl

theorem reads_number (depth : Nat) (writes : WritesNumber text v) : Reads (valueFrom depth) text v := by
  have read (rest : List Char) (ends : Ends rest) : scalar (text ++ rest) = .ok (v, rest) := by
    rw [scalar, words_of_number writes, number?_of_writes writes ends]
  obtain ⟨c, more, first, digit | ⟨rfl, -⟩⟩ := writes.first
  · have other (d : Char) (mark : d.isDigit = false) : c ≠ d := by
      rintro rfl
      cases mark.symm.trans digit
    exact reads_scalar depth first (other _ rfl) (other _ rfl) (other _ rfl) read
  · exact reads_scalar depth first (by decide) (by decide) (by decide) read

theorem reads_string (depth : Nat) {body : List Char} {ps : List CodePoint} (spells : Spells body ps) :
    Reads (valueFrom depth) ('"' :: (body ++ ['"'])) (.str (.ofPoints ps)) := by
  intro rest _
  obtain ⟨shorter, read⟩ := stringFrom_literal spells rest
  have whole : '"' :: (body ++ ['"']) ++ rest = '"' :: (body ++ '"' :: rest) := by simp
  rw [whole]
  exact ⟨shorter, valueFrom_string read⟩

theorem reads_flat (depth : Nat) (flat : Flat text v) : Reads (valueFrom depth) text v := by
  cases flat with
  | word known => exact reads_word depth known
  | number writes => exact reads_number depth writes
  | string spells => exact reads_string depth spells

end

/-! ### Containers -/

section

variable {read : (cs : List Char) → From cs α} {item : List Char → α → Prop} {text : List Char}
  (opens : ∀ text x, item text x → ∃ c more, text = c :: more ∧ opensValue c = true)
include opens

theorem skipBlanks_item {front : List Char} {x : α} (before : Blanks front) (written : item text x)
    (rest : List Char) : skipBlanks (front ++ (text ++ rest)) = text ++ rest := by
  obtain ⟨c, more, rfl, opened⟩ := opens text x written
  refine skipBlanks_append before ?_
  rintro d first
  obtain rfl := Option.some.inj first
  exact (not_opensValue opened).1

/-- No item begins with a closing bracket. -/
theorem head?_separated {close : Char} (closes : close = ']' ∨ close = '\x7d') {xs : List α}
    (separated : Separated item text xs) (rest : List Char) :
    (skipBlanks (text ++ rest)).head? ≠ some close := by
  have start {front text : List Char} {x : α} (before : Blanks front) (written : item text x)
      (rest : List Char) : (skipBlanks (front ++ (text ++ rest))).head? ≠ some close := by
    rw [skipBlanks_item opens before written]
    obtain ⟨c, more, rfl, opened⟩ := opens text x written
    intro same
    obtain rfl := Option.some.inj same
    obtain ⟨-, bracket, brace, -⟩ := not_opensValue opened
    exact closes.elim bracket brace
  cases separated with
  | one before written behind =>
    rw [List.append_assoc, List.append_assoc]
    exact start before written _
  | more before written behind _ =>
    rw [List.append_assoc, List.append_assoc]
    exact start before written _

variable (reads : ∀ text x, item text x → Reads read text x)
include reads

/-- Items between commas are read one by one up to the closing bracket. -/
theorem itemsFrom_of_separated {close : Char} (closes : close = ']' ∨ close = '\x7d') {xs : List α}
    (separated : Separated item text xs) {start cs : List Char} (done : List α) (rest : List Char)
    (begins : skipBlanks (text ++ close :: rest) = cs) (h : cs.length < start.length) : ∃ left,
      itemsFrom close read start done cs h = .ok (done.reverse ++ xs, ⟨rest, left⟩) := by
  have comma : ',' ≠ close := by rcases closes with rfl | rfl <;> decide
  have closed : ∀ c ∈ (close :: rest).head?, isBlank c = false := by
    rcases closes with rfl | rfl <;> simp [isBlank]
  have closing : Ends (close :: rest) := by
    rintro c first
    obtain rfl := Option.some.inj first
    rcases closes with rfl | rfl <;> simp
  have separating (later : List Char) : Ends (',' :: later) := by
    rintro c first
    obtain rfl := Option.some.inj first
    exact .inr (.inl rfl)
  induction separated generalizing done cs with
  | @one front text back x before written behind =>
    have whole : front ++ (text ++ back) ++ close :: rest = front ++ (text ++ (back ++ close :: rest)) := by simp
    rw [whole, skipBlanks_item opens before written] at begins
    subst begins
    obtain ⟨_, found⟩ := reads text x written _ (ends_append behind closing)
    obtain ⟨left, ended⟩ := itemsFrom_close done h found (skipBlanks_append behind closed)
    refine ⟨left, ended.trans ?_⟩
    rw [List.reverse_cons]
  | @more front text back later x xs before written behind _ ih =>
    have whole : front ++ (text ++ (back ++ ',' :: later)) ++ close :: rest =
        front ++ (text ++ (back ++ ',' :: (later ++ close :: rest))) := by simp
    rw [whole, skipBlanks_item opens before written] at begins
    subst begins
    obtain ⟨_, found⟩ := reads text x written _ (ends_append behind (separating _))
    obtain ⟨_, next⟩ := itemsFrom_comma done h found comma (skipBlanks_append behind (by simp [isBlank]))
    obtain ⟨left, same⟩ := ih (x :: done) rfl _
    refine ⟨left, next.trans (same.trans ?_)⟩
    rw [List.reverse_cons, List.append_assoc]
    rfl

end

section

variable {depth : Nat} {text : List Char}

theorem opens_member (text : List Char) (m : RawText × Value)
    (writes : WritesMember (WritesValue depth) text m) : ∃ c more, text = c :: more ∧ opensValue c = true := by
  cases writes
  exact ⟨_, _, rfl, rfl⟩

variable (reads : ∀ text v, WritesValue depth text v → Reads (valueFrom depth) text v)
include reads

theorem reads_member (text : List Char) (m : RawText × Value)
    (writes : WritesMember (WritesValue depth) text m) :
    Reads (memberFrom (valueFrom depth)) text m := by
  obtain ⟨spells, behind, before, value⟩ := writes
  rename_i body back front text ps v
  intro rest ends
  have whole : '"' :: (body ++ '"' :: (back ++ ':' :: (front ++ text))) ++ rest =
      '"' :: (body ++ '"' :: (back ++ ':' :: (front ++ (text ++ rest)))) := by simp
  obtain ⟨_, name⟩ := stringFrom_literal spells (back ++ ':' :: (front ++ (text ++ rest)))
  have colon : skipBlanks (back ++ ':' :: (front ++ (text ++ rest))) = ':' :: (front ++ (text ++ rest)) :=
    skipBlanks_append behind (by simp [isBlank])
  have start : skipBlanks (front ++ (text ++ rest)) = text ++ rest :=
    skipBlanks_item (opens_value depth) before value rest
  obtain ⟨_, found⟩ := (reads text v value).skipped start ends
  rw [whole]
  exact memberFrom_ok name colon found

theorem reads_array {vs : List Value} (items : Separated (WritesValue depth) text vs) :
    Reads (valueFrom (depth + 1)) ('[' :: (text ++ [']'])) (.arr vs) := by
  intro rest _
  have whole : '[' :: (text ++ [']']) ++ rest = '[' :: (text ++ ']' :: rest) := by simp
  obtain ⟨inside, array⟩ := valueFrom_items depth (head?_separated (opens_value depth) (.inl rfl) items (']' :: rest))
  obtain ⟨left, read⟩ := itemsFrom_of_separated (opens_value depth) reads (.inl rfl) items [] rest rfl inside
  rw [whole, array, read]
  exact ⟨left, rfl⟩

theorem reads_object {ms : List (RawText × Value)}
    (members : Separated (WritesMember (WritesValue depth)) text ms) :
    Reads (valueFrom (depth + 1)) ('\x7b' :: (text ++ ['\x7d'])) (.obj ms) := by
  intro rest _
  have whole : '\x7b' :: (text ++ ['\x7d']) ++ rest = '\x7b' :: (text ++ '\x7d' :: rest) := by simp
  obtain ⟨inside, object⟩ :=
    valueFrom_members depth (head?_separated opens_member (.inr rfl) members ('\x7d' :: rest))
  obtain ⟨left, read⟩ :=
    itemsFrom_of_separated opens_member (reads_member reads) (.inr rfl) members [] rest rfl inside
  rw [whole, object, read]
  exact ⟨left, rfl⟩

end

/-- The reader takes a value for what it stands for, at every depth. -/
theorem reads_value (depth : Nat) : ∀ text v, WritesValue depth text v → Reads (valueFrom depth) text v := by
  induction depth with
  | zero => exact fun text v => reads_flat 0
  | succ depth ih =>
    intro text v writes
    cases writes with
    | flat flat => exact reads_flat _ flat
    | @noItems blanks blank =>
      intro rest _
      have whole : '[' :: (blanks ++ [']']) ++ rest = '[' :: (blanks ++ ']' :: rest) := by simp
      rw [whole]
      exact valueFrom_noItems depth (skipBlanks_append blank (by simp [isBlank]))
    | items items => exact reads_array ih items
    | @noMembers blanks blank =>
      intro rest _
      have whole : '\x7b' :: (blanks ++ ['\x7d']) ++ rest = '\x7b' :: (blanks ++ '\x7d' :: rest) := by simp
      rw [whole]
      exact valueFrom_noMembers depth (skipBlanks_append blank (by simp [isBlank]))
    | members members => exact reads_object ih members

/-! ### Whole texts -/

/-- The reader takes a text for the value that it denotes. -/
theorem read_of_denotes {depth : Nat} {text : List Char} {v : Value} (denotes : Denotes depth text v) :
    read depth text = .ok v := by
  obtain ⟨before, writes, behind⟩ := denotes
  rename_i front text back
  have none : Ends [] := fun c first => by cases first
  have ends : Ends back := by simpa using ends_append behind none
  have unmarked : (front ++ (text ++ back)).head? ≠ some '\ufeff' := by
    cases front with
    | nil =>
      obtain ⟨c, more, rfl, opened⟩ := opens_value _ text v writes
      exact fun same => (not_opensValue opened).2.2.2 (Option.some.inj same)
    | cons c front =>
      intro same
      obtain rfl := Option.some.inj same
      cases before _ List.mem_cons_self
  have start : skipBlanks (front ++ (text ++ back)) = text ++ back := skipBlanks_item (opens_value _) before writes back
  have after : skipBlanks back = [] := by
    have skipped : skipBlanks (back ++ []) = [] := skipBlanks_append behind (by simp)
    rwa [List.append_nil] at skipped
  obtain ⟨_, found⟩ := (reads_value depth text v writes).skipped start ends
  rw [read_of_valueFrom depth unmarked, found]
  simp only [after]

end Bearer.Json
