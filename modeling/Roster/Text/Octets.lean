/-!
# Texts as octets

The UTF-8 form of a text, and two readings of octets: `decode?` takes well-formed UTF-8 only, and
`lossy` shows any octets by putting one replacement character for each longest stretch that starts
like a character and is not one.
-/

namespace Roster.Text

/-- The UTF-8 form of one character. -/
def charOctets (c : Char) : List UInt8 :=
  let n := c.toNat
  if n < 0x80 then [n.toUInt8]
  else if n < 0x800 then [(0xC0 + n / 0x40).toUInt8, (0x80 + n % 0x40).toUInt8]
  else if n < 0x10000 then
    [(0xE0 + n / 0x1000).toUInt8, (0x80 + n / 0x40 % 0x40).toUInt8, (0x80 + n % 0x40).toUInt8]
  else
    [(0xF0 + n / 0x40000).toUInt8, (0x80 + n / 0x1000 % 0x40).toUInt8,
      (0x80 + n / 0x40 % 0x40).toUInt8, (0x80 + n % 0x40).toUInt8]

/-- The UTF-8 form of a text. -/
def octets (text : String) : List UInt8 := text.toList.flatMap charOctets

/-- How a sequence of octets begins: a character of `length` octets, or `length` octets that begin
like a character and are none. -/
inductive Lead where
  /-- A whole character in front. -/
  | char (c : Char) (length : Nat)
  /-- The octets in front of which no character is made. -/
  | broken (length : Nat)
  deriving Repr

/-- An octet that continues a character. -/
def isTail (b : UInt8) : Bool := 0x80 ≤ b.toNat && b.toNat ≤ 0xBF

/-- The least and greatest second octet after a first octet that begins a longer character. -/
def secondRange (first : Nat) : Nat × Nat :=
  if first = 0xE0 then (0xA0, 0xBF)
  else if first = 0xED then (0x80, 0x9F)
  else if first = 0xF0 then (0x90, 0xBF)
  else if first = 0xF4 then (0x80, 0x8F)
  else (0x80, 0xBF)

/-- What stands in front of the octets after a first octet `a`. -/
def lead (a : UInt8) (rest : List UInt8) : Lead :=
  let n := a.toNat
  if n < 0x80 then .char (Char.ofNat n) 1
  else if n < 0xC2 || 0xF4 < n then .broken 1
  else
    match rest with
    | [] => .broken 1
    | b :: rest =>
      let (low, high) := secondRange n
      if b.toNat < low || high < b.toNat then .broken 1
      else if n < 0xE0 then .char (Char.ofNat ((n - 0xC0) * 0x40 + (b.toNat - 0x80))) 2
      else
        match rest with
        | [] => .broken 2
        | c :: rest =>
          if !isTail c then .broken 2
          else if n < 0xF0 then
            .char (Char.ofNat ((n - 0xE0) * 0x1000 + (b.toNat - 0x80) * 0x40 + (c.toNat - 0x80))) 3
          else
            match rest with
            | [] => .broken 3
            | d :: _ =>
              if !isTail d then .broken 3
              else
                .char (Char.ofNat ((n - 0xF0) * 0x40000 + (b.toNat - 0x80) * 0x1000
                  + (c.toNat - 0x80) * 0x40 + (d.toNat - 0x80))) 4

/-- The characters of well-formed octets. -/
def decodeChars? (bytes : List UInt8) : Option (List Char) :=
  match bytes with
  | [] => some []
  | a :: rest =>
    match lead a rest with
    | .char c length => (decodeChars? (rest.drop (length - 1))).map (c :: ·)
    | .broken _ => none
termination_by bytes.length
decreasing_by simp only [List.length_drop, List.length_cons]; omega

/-- The text of well-formed octets. -/
def decode? (bytes : List UInt8) : Option String := (decodeChars? bytes).map String.ofList

/-- The characters of octets, with a replacement character for each stretch that is none. -/
def lossyChars (bytes : List UInt8) : List Char :=
  match bytes with
  | [] => []
  | a :: rest =>
    match lead a rest with
    | .char c length => c :: lossyChars (rest.drop (length - 1))
    | .broken length => '\uFFFD' :: lossyChars (rest.drop (length - 1))
termination_by bytes.length
decreasing_by all_goals (simp only [List.length_drop, List.length_cons]; omega)

/-- The text of octets, with a replacement character for each stretch that is none. -/
def lossy (bytes : List UInt8) : String := String.ofList (lossyChars bytes)

end Roster.Text
