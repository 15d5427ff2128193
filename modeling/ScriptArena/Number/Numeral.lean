namespace ScriptArena.Number

-- The digit of a value below 36.
def digitChar (d : Nat) : Char :=
  if d < 10 then Char.ofNat (48 + d) else Char.ofNat (87 + d)

-- The digits of `n` in a base of at least two, the most significant first.
def digitsFrom (base : Nat) : Nat → Nat → List Char → List Char
  | 0, _, acc => acc
  | fuel + 1, n, acc =>
    let acc := digitChar (n % base) :: acc
    if n / base = 0 then acc else digitsFrom base fuel (n / base) acc

def bitLength (n : Nat) : Nat := if n = 0 then 0 else n.log2 + 1

def numeral (base n : Nat) : String := String.ofList (digitsFrom base (bitLength n + 1) n [])

def decimal (n : Nat) : String := numeral 10 n

def signed (neg : Bool) (text : String) : String := if neg then "-" ++ text else text

def intText (n : Int) : String := signed (n < 0) (decimal n.natAbs)

-- The most digits that an integer may have when it is turned into decimal text or read from it.
def maxDecimalDigits : Nat := 4300

-- Groups of `width` digits, counted from the right and joined by `mark`.
def groupDigits (width : Nat) (mark : Char) (digits : List Char) : List Char :=
  (go digits.reverse 0 []).1
where
  go : List Char → Nat → List Char → List Char × Nat
    | [], k, acc => (acc, k)
    | c :: rest, k, acc =>
      if k = width then go rest 1 (c :: mark :: acc) else go rest (k + 1) (c :: acc)

-- The integer nearest to `num / den`; a half goes to the even neighbour.
def roundHalfEven (num den : Nat) : Nat :=
  let q := num / den
  let r := num % den
  if den < 2 * r ∨ (2 * r = den ∧ q % 2 = 1) then q + 1 else q

theorem bitLength_bound (n : Nat) : n < Nat.pow 2 (bitLength n) := by
  unfold bitLength
  split
  · rename_i zero
    rw [zero]
    exact Nat.one_pos
  · exact Nat.lt_log2_self

end ScriptArena.Number
