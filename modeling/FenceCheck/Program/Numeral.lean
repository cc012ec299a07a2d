/-!
Numerals of a program: whole, fractional and imaginary ones in base ten, whole ones in the bases two,
eight and sixteen. Digits may be grouped by single underscores. A numeral may run into one of a few
keywords, and into no other letter.
-/
namespace FenceCheck.Program

abbrev Rest := List Char

/-- The rest after a piece, or what is wrong with the piece. -/
abbrev Piece := Except String Rest

def dropDigits (isDigit : Char → Bool) (s : Rest) : Rest := s.dropWhile isDigit

/-- May be a character of a name; which ones are is checked later. -/
def mayContinueName (c : Char) : Bool := c.isAlphanum || c = '_' || c.toNat ≥ 128

def mayStartName (c : Char) : Bool := c.isAlpha || c = '_' || c.toNat ≥ 128

def beginsKeyword (s : Rest) : Bool :=
  ["and", "else", "for", "if", "in", "is", "or"].any fun w => w.toList.isPrefixOf s

/-- The end of a numeral: no name may follow. -/
def endNumeral (kind : String) (s : Rest) : Piece :=
  if beginsKeyword s then .ok s
  else match s with
    | c :: _ => if mayContinueName c then .error ("invalid " ++ kind ++ " literal") else .ok s
    | [] => .ok s

def decimalTail : Nat → Rest → Piece
  | 0, s => .ok s
  | fuel + 1, s =>
    match dropDigits Char.isDigit s with
    | '_' :: rest =>
      match rest with
      | c :: _ => if c.isDigit then decimalTail fuel rest else .error "invalid decimal literal"
      | [] => .error "invalid decimal literal"
    | rest => .ok rest

def basedDigits (isDigit : Char → Bool) (kind : String) : Nat → Rest → Piece
  | 0, s => .ok s
  | fuel + 1, s =>
    let s := match s with | '_' :: rest => rest | _ => s
    let wrong (s : Rest) : Piece :=
      match s with
      | c :: _ =>
        if c.isDigit && kind ≠ "hexadecimal" then
          .error ("invalid digit '" ++ c.toString ++ "' in " ++ kind ++ " literal")
        else .error ("invalid " ++ kind ++ " literal")
      | [] => .error ("invalid " ++ kind ++ " literal")
    match s with
    | c :: _ =>
      if isDigit c then
        match dropDigits isDigit s with
        | '_' :: rest => basedDigits isDigit kind fuel ('_' :: rest)
        | d :: rest =>
          if d.isDigit && kind ≠ "hexadecimal" then wrong (d :: rest) else endNumeral kind (d :: rest)
        | [] => .ok []
      else wrong s
    | [] => wrong s

def imaginaryEnd (s : Rest) : Piece :=
  match s with
  | 'j' :: rest | 'J' :: rest => endNumeral "imaginary" rest
  | _ => endNumeral "decimal" s

/-- An exponent, if there is one, and the end of a numeral. -/
def exponentEnd (s : Rest) : Piece :=
  let digits (s : Rest) : Piece := do imaginaryEnd (← decimalTail s.length s)
  match s with
  | e :: rest =>
    if e = 'e' || e = 'E' then
      match rest with
      | sign :: c :: more =>
        if sign = '+' || sign = '-' then
          if c.isDigit then digits (c :: more) else .error "invalid decimal literal"
        else if sign.isDigit then digits rest
        else endNumeral "decimal" s
      | [c] =>
        if c = '+' || c = '-' then .error "invalid decimal literal"
        else if c.isDigit then digits rest
        else endNumeral "decimal" s
      | [] => endNumeral "decimal" s
    else imaginaryEnd s
  | [] => .ok []

def fractionEnd (s : Rest) : Piece :=
  match s with
  | c :: _ => do
    if c.isDigit then exponentEnd (← decimalTail s.length s) else exponentEnd s
  | [] => .ok []

def dropZeros : Nat → Rest → Piece
  | 0, s => .ok s
  | fuel + 1, s =>
    let after (s : Rest) : Piece :=
      match s with
      | '0' :: rest => dropZeros fuel rest
      | _ => .ok s
    match s with
    | '_' :: c :: rest => if c.isDigit then after (c :: rest) else .error "invalid decimal literal"
    | ['_'] => .error "invalid decimal literal"
    | _ => after s

def numeralEnd (s : Rest) : Piece :=
  let fuel := s.length
  match s with
  | '0' :: rest =>
    match rest with
    | 'x' :: more | 'X' :: more =>
      basedDigits (fun c => c.isDigit || ('a' ≤ c && c ≤ 'f') || ('A' ≤ c && c ≤ 'F')) "hexadecimal" fuel more
    | 'o' :: more | 'O' :: more => basedDigits (fun c => '0' ≤ c && c < '8') "octal" fuel more
    | 'b' :: more | 'B' :: more => basedDigits (fun c => c = '0' || c = '1') "binary" fuel more
    | _ => do
      let zeros ← dropZeros fuel rest
      let nonzero := (zeros.head?.map Char.isDigit).getD false
      let tail ← if nonzero then decimalTail fuel zeros else pure zeros
      match tail with
      | '.' :: more => fractionEnd more
      | c :: _ =>
        if c = 'e' || c = 'E' then exponentEnd tail
        else if c = 'j' || c = 'J' then imaginaryEnd tail
        else if nonzero then
          .error ("leading zeros in decimal integer literals are not permitted; "
            ++ "use an 0o prefix for octal integers")
        else endNumeral "decimal" tail
      | [] => .ok []
  | _ => do
    match ← decimalTail fuel s with
    | '.' :: more => fractionEnd more
    | tail => exponentEnd tail

end FenceCheck.Program
