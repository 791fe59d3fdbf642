import SourceAudit.Grammar.Token
import SourceAudit.Text.Composed

/-! From characters to tokens. Blocks become indent and dedent tokens; within brackets lines do not end. -/

namespace SourceAudit

namespace Identifier

def startTable : Thunk Ranges := .mk fun _ => .ofTable (Packed.unpack 3114
  "gMkC!N*^4GcDYb9^=%*!zq+D]J5b]S6uVpvgFch?pPf|ijy2I_)2&I2w(xt&<O?Nx,Jgc(~MTNWKa,Izk;<(X;J8C]2WXBiTt@=hj$@FV[RBCn&]sx&Ro
  ,I<sUo;]At@k:wod<WUDx[CMe?Igy$j:9>hQ(ml7]u]>TU6~,ymAsmrHL^ty;6,uy$prqXrB^2.BwAKnwvMzc07LO9K.%@|AVA+!^1wxd!H(QIW7e)>u:b
  Vpo%Pl4BNV!R,HvDJdZ(fCyd7meLz?Qc7G14pmfUAw__DpylMd5xX$lq>$jKIYf4uIKN?HL3+)_n4|CEii6u4n65!z_VoS<1ZsSkn2_6cDpC:ep_I@u%:@
  froG^zNFV~,9^wxVp%z=m%gEIJ2|c~p9?NTTsms9dx,%WQro|XhtJTU9IczVa.y%eAfTl+)S!ycKJQ+vlzq4?ZgtXGo^IKUn<gaPP(DtESnVtY,bq0zyU>
  0C@Zceh:Lf2&[q=Da@w<c[wMg_K5]TP.fT5C9gcy|;>>r<j:Xmmi9RgkED8)UVV=c&7c[Ir!.H*WK,CtYyuqAzm,4k,f&[]rT**TwWj]8NHV0I4wP(!7fh
  3ioCV5%Te[=4Ti6V1AyoJFiW[aBsj%^WlBCQ(jd0ziABV(8K*;>z8+cuQ,g_3U2P]9U1g2v|8_2MV?$L:QFO+msZWhl]OC8*>,JiQ|>O;_Qv4.t.UAGQKH
  Xy0@J](8x9|BEqUUFP?ktcPtg.CVCUikS=|=q6I7~a6PAe;:hWM(!.6Dgcm8Rh.:z^tdlhKV$,^U<B?qS*chwm!D$VcT;!:kq]fHwqZX@jn9$Dm~ll2nXu
  |<(b>pf)qr4_I>@xp,R9$j[Xeeq%fnoGP7,m$63.|oA,GU_j&:3*%fEA$gmCiB[D,gF+v87+%JE|7Ojn_:V[|^volLuxLDsB~a&PZ88pC(Y*nwl=0Hu|V?
  Vq4B;%(Mib4Y15!fUkZlTT&3h;yn~P>sTYwfi&$^UY[;M^uD|~H6LCu0oYzpRK7,~sK%e]@5i4F|Zn]l(@!rgF^3DkXTr~b|POF8**4>W<d*sXyBbpcMZ8
  ;xr1*1*3J,T=a!SZQoU:m@f4T_Xar^u0RMuRD?~jIZyJyUGvMLkt7@YHFL=_g&Vg%QZ&Pm[vYmsFm@8Hd>2[Q]%KER[=DU%!>uZm:Pwu7FQ?Y3Pg_4S1o5
  _dmMjB")

def continueTable : Thunk Ranges := .mk fun _ => .ofTable (Packed.unpack 3516
  "hfbQcQvM:Kr$U=gmx=zq<SJnneap$+:1e;bO?a!:RT6p7Wo8u4jJbqTT=TBi$Ae|($v^b,y<1oL[=>su94hy_)0z8HOj9~C?&1uhUQz+jj?e|p)?*JPsC
  aBC*Cn$x;j+W^|SH5NU):pHCiU.HT?oGyTpONk0Ac%9BbV%C8sy(pm>SAZ=wQ!x4]sgnurM!Wg^k*v$?FVFBGJ4rE^TOe|wJXNjbah?I@akk<P6;P*0KKT
  lWVjlG*F%qeIC12>*[Hyp6in(zoP!c[VTdXhmutC*C86uy>7c:!w@$QsXJsd5I1$YB7[O:c?d~X>k=wMRLCzOT9t:]spNKrq~f]KQuk(;eg6^^K%qsw9|w
  H6!H31G&Vt*fAf_*ygcMtGQ|lU?EPGTZ*OacfsausC?9=0Wk;(GCE&)]?<]yRJOubEwuAj7pw53Y3yCn;<Jw:Tl&<2opmNx.O???E^t+4:m<l3a<=Si,M^
  O.0r8C=+KDLYGL;Uw5<Qa6EkL&TcnQ~OZtdE^d]VjA;D;z,D5[bAQ(qKY22&aIMNl[:qInw<xAqBt@q]!TnCuHEo16F,YAbhaD>TNGP$U32;Y@rCg0E4^~
  SE3:dn>:xHVTnud<.=chLMBI3|Bvol5QwpV3[%nvsevx?.KxnQ(l>tcg,QaP[d*2!=N<flz|5<i7kp)(ZU.iy2sfO1Hr_XUExokSLk3zH>yS.[o8E3!@8[
  j[@W]O0chgf,8e]tPk:|zJQ^sB?j*cOMQN:@UuYo3vs8U?PD9rHov%<_<nsMAU4bC9>yub>HLUBl@+i@<(ZhgjvHU:.ZShhLqZpM>%%nIvyn0+xTX3)0MN
  qu3z(US!ilGYt@XP7x)VLM@re4WaMqCWkNji>*4>b|!ojqT(;bR|UFc?$AhTE<;OI2l53z|u?]w[P,6Mtpg8sll%p8]JkHg;wS31FVHZE~[ww&kGeh;3NA
  HrmJG+y=m+_(>iewfqxeGKeVlG[nUmjyB@?_3<gOiDjB==,HKXv2~rKZ^<4,%7~Z~fCW?esTSUP(pP^eD1|L]s*AvcOJlN=Ut>5?]Ki)8iPD=is|uk.q.V
  ^](xr<!&z6PPz$6hDpEQ2PngegQ40jdIM8O<D7_CPARr3;SJ%;vnRTw2K=&YyH7|wGhSZEmDL~=|8J9$bpWIo.Z__H+PPAxcRi6+[iQ<>sD(E@$E.5[D$i
  i7.7n%vQ(nAQq.z~^@AkmqUD8QD>P:v^UPVj;uW,7&irrU*qbx~0dx.(ca*LOF3<.K@Eir4n6)=O1Xa9&V(lMRA2d@y$bEJjWeew1nQ;G8dr?$28,jw7~S
  PzCh$:.$E_6Yy;H")

def isStart (c : Char) : Bool :=
  if c.toNat < 128 then c.isAlpha || c == '_' else startTable.get.contains c.toNat

def isContinue (c : Char) : Bool :=
  if c.toNat < 128 then c.isAlphanum || c == '_' else continueTable.get.contains c.toNat

def isIdentifier : List Char → Bool
  | [] => false
  | c :: cs => isStart c && cs.all isContinue

end Identifier

namespace Numeral

/-- A literal that has been read: its value, its length, and what follows. -/
structure Read where
  value : Constant
  length : Nat
  rest : List Char

def natOf (base : Nat) (digits : List Char) : Nat :=
  digits.foldl (fun n c => match hexDigit? c with | some d => n * base + d | none => n) 0

/-- A run of digits, perhaps empty, with single low lines between digits, and the rest; none at a low line before no
digit. -/
def grouped (isDigit : Char → Bool) (cs : List Char) : Option (List Char × List Char) := go cs.length (cs.span isDigit)
where
  go : Nat → List Char × List Char → Option (List Char × List Char)
    | 0, r => some r
    | n + 1, (ds, '_' :: rest) =>
      match rest.span isDigit with
      | ([], _) => none
      | (more, rest) => go n (ds ++ '_' :: more, rest)
    | _ + 1, r => some r

def isWordChar (c : Char) : Bool := c.isAlphanum || c == '_' || c.toNat ≥ 128

/-- Whether a number may end here: no identifier may follow, but some keywords may. -/
def mayEnd (cs : List Char) : Bool :=
  ["and", "else", "for", "if", "in", "is", "or", "not"].any (·.toList.isPrefixOf cs) || !cs.head?.any isWordChar

def maxDigits : Nat := 4300

def radix (base : Nat) (isDigit : Char → Bool) (cs : List Char) : Option Read := do
  let (lead, cs) := match cs with | '_' :: rest => (1, rest) | _ => (0, cs)
  let (ds, rest) ← grouped isDigit cs
  if ds.isEmpty || !mayEnd rest || (rest.head?.any Char.isDigit) then none
  else some ⟨.int (natOf base ds), 2 + lead + ds.length, rest⟩

def exponent? (cs : List Char) : Option (Option (Bool × List Char × Nat × List Char)) :=
  match cs with
  | c :: rest =>
    if c.toLower == 'e' then
      let (negative, signed, tail) := match rest with
        | '+' :: t => (false, true, t)
        | '-' :: t => (true, true, t)
        | t => (false, false, t)
      if tail.head?.any Char.isDigit then
        match grouped Char.isDigit tail with
        | some (ds, rest) => some (some (negative, ds, (if signed then 2 else 1) + ds.length, rest))
        | none => none
      else if signed then none
      else if mayEnd cs then some none
      else none
    else some none
  | [] => some none

def finish (whole fraction : List Char) (pointed : Bool) (length : Nat) (cs : List Char) :
    Option Read := do
  let exp ← exponent? cs
  let (negative, expDigits, expLength, rest) := exp.getD (false, [], 0, cs)
  let length := length + expLength
  let isFloat := pointed || exp.isSome
  let digits := natOf 10 (whole ++ fraction)
  let places := (fraction.filter Char.isDigit).length
  let e : Int := natOf 10 expDigits
  let value := Binary64.ofDecimal false digits ((if negative then -e else e) - places)
  match rest with
  | 'j' :: tail | 'J' :: tail =>
    if mayEnd tail then some ⟨.imaginary value, length + 1, tail⟩ else none
  | _ =>
    if !mayEnd rest then none
    else if isFloat then some ⟨.float value, length, rest⟩
    else if (whole.filter Char.isDigit).length > maxDigits then none
    else if whole.head? == some '0' && digits != 0 then none
    else some ⟨.int digits, length, rest⟩

def read? (cs : List Char) : Option Read :=
  match cs with
  | '0' :: x :: rest =>
    match x.toLower with
    | 'x' => radix 16 (fun c => (hexDigit? c).isSome) rest
    | 'o' => radix 8 (fun c => '0' ≤ c && c ≤ '7') rest
    | 'b' => radix 2 (fun c => c == '0' || c == '1') rest
    | _ => decimal cs
  | _ => decimal cs
where
  decimal (cs : List Char) : Option Read := do
    let (whole, rest) ← grouped Char.isDigit cs
    match rest with
    | '.' :: tail =>
      if tail.head?.any Char.isDigit then
        let (fraction, rest) ← grouped Char.isDigit tail
        finish whole fraction true (whole.length + 1 + fraction.length) rest
      else finish whole [] true (whole.length + 1) tail
    | _ => finish whole [] false whole.length rest

end Numeral

namespace Lexer

/-- What is left to read, and where it stands. -/
structure Cursor where
  rest : List Char
  line : Nat
  column : Nat

namespace Cursor

def step (c : Char) (k : Cursor) : Cursor :=
  if c == '\n' then ⟨k.rest.drop 1, k.line + 1, 0⟩
  else ⟨k.rest.drop 1, k.line, k.column + c.utf8Size⟩

def skip : Nat → Cursor → Cursor
  | 0, k => k
  | n + 1, k =>
    match k.rest with
    | [] => k
    | c :: _ => skip n (k.step c)

def tokenTo (start stop : Cursor) (lexeme : Lexeme) : Token :=
  ⟨lexeme, start.line, start.column, stop.line, stop.column⟩

end Cursor

def marks : List String :=
  ["**=", "//=", ">>=", "<<=", "...", "!=", "->", ":=", "==", "<=", ">=", "<<", ">>", "+=", "-=", "*=",
    "/=", "%=", "@=", "&=", "|=", "^=", "**", "//", "<>", "(", ")", "[", "]", "\x7b", "\x7d", ",", ":",
    ".", ";", "@", "=", "+", "-", "*", "/", "%", "&", "|", "^", "~", "<", ">"]

def mark? (cs : List Char) : Option String := marks.find? fun m => m.toList.isPrefixOf cs

structure QuotePrefix where
  length : Nat := 0
  raw : Bool := false
  bytes : Bool := false
  unicode : Bool := false
  formatted : Bool := false

/-- Reads the letters in front of a quote; none when what follows is no string literal. -/
def quotePrefix? (p : QuotePrefix) : List Char → Option QuotePrefix
  | [] => none
  | c :: cs =>
    let longer := { p with length := p.length + 1 }
    let taken := p.bytes || p.unicode || p.formatted
    match c.toLower with
    | '"' | '\'' => some p
    | 'b' => if taken then none else quotePrefix? { longer with bytes := true } cs
    | 'u' => if taken || p.raw then none else quotePrefix? { longer with unicode := true } cs
    | 'r' => if p.raw || p.unicode then none else quotePrefix? { longer with raw := true } cs
    | 'f' => if taken then none else quotePrefix? { longer with formatted := true } cs
    | _ => none

/-- The text up to the closing quotes; none when they are missing. A backslash protects the character
behind it. -/
def quoted? (quote : Char) (triple : Bool) : List Char → Option (List Char)
  | [] => none
  | '\\' :: c :: cs => (quoted? quote triple cs).map fun body => '\\' :: c :: body
  | c :: cs =>
    if c == quote && (!triple || [quote, quote].isPrefixOf cs) then some []
    else if c == '\n' && !triple then none
    else (quoted? quote triple cs).map (c :: ·)

def quotation? (p : QuotePrefix) (cs : List Char) : Option Quotation :=
  match cs.drop p.length with
  | quote :: after =>
    let triple := [quote, quote].isPrefixOf after
    let width := if triple then 3 else 1
    let content := after.drop (width - 1)
    (quoted? quote triple content).map fun body =>
      ⟨cs.take (p.length + 2 * width + body.length), body, p.length + width, p.raw, p.bytes, p.formatted⟩
  | [] => none

/-- An open block: its indentation with tabs to multiples of eight, and with tabs of one column. -/
structure Indent where
  column : Nat
  narrow : Nat
  deriving DecidableEq

structure State where
  cursor : Cursor
  /-- Enclosing blocks, the innermost first; the outermost one is not listed. -/
  blocks : List Indent := []
  brackets : List Char := []
  tokens : List Token := []

def State.push (s : State) (length : Nat) (lexeme : Lexeme) : State :=
  let cursor := s.cursor.skip length
  { s with tokens := s.cursor.tokenTo cursor lexeme :: s.tokens, cursor }

/-- The width of the blanks at the start of a line; of joined blank lines the first one fixes the indentation. -/
structure Margin where
  column : Nat := 0
  narrow : Nat := 0
  fixed : Nat := 0

def margin (m : Margin) (k : Cursor) : List Char → Except Rejection (Margin × Cursor)
  | ' ' :: rest => margin { m with column := m.column + 1, narrow := m.narrow + 1 } (k.step ' ') rest
  | '\t' :: rest =>
    margin { m with column := (m.column / 8 + 1) * 8, narrow := m.narrow + 1 } (k.step '\t') rest
  | '\x0c' :: rest => margin { m with column := 0, narrow := 0 } (k.step '\x0c') rest
  | '\\' :: '\n' :: rest =>
    if rest.isEmpty then .error .malformed
    else margin { m with fixed := if m.fixed == 0 then m.column else m.fixed } (k.skip 2) rest
  | '\\' :: _ => .error .malformed
  | _ => .ok (m, k)

/-- At most this many blocks nest, the outermost included. -/
def maxBlocks : Nat := 100

def maxBrackets : Nat := 200

def closeBlocks (target : Indent) : List Indent → Except Rejection (List Indent × Nat)
  | [] => if target.column != 0 then .error .indentation
    else if target.narrow != 0 then .error .tabs else .ok ([], 0)
  | b :: bs =>
    if target.column < b.column then (closeBlocks target bs).map fun (left, n) => (left, n + 1)
    else if target.column != b.column then .error .indentation
    else if target.narrow != b.narrow then .error .tabs
    else .ok (b :: bs, 0)

def indentTo (target : Indent) (s : State) : Except Rejection State := do
  let top := s.blocks.head?.getD ⟨0, 0⟩
  let at_ := fun (l : Lexeme) => Cursor.tokenTo s.cursor s.cursor l
  if target.column > top.column then
    if s.blocks.length + 2 > maxBlocks then throw .indentation
    if target.narrow ≤ top.narrow then throw .tabs
    return { s with blocks := target :: s.blocks, tokens := at_ .indent :: s.tokens }
  else
    let (blocks, closed) ← closeBlocks target s.blocks
    return { s with blocks, tokens := List.replicate closed (at_ .dedent) ++ s.tokens }

def closing (c : Char) : Char :=
  if c == '(' then ')' else if c == '[' then ']' else Char.ofNat 125

/-- One token, or a stretch without tokens. The flag of the result tells whether a new line begins. -/
def scanToken (blank : Bool) (s : State) : Except Rejection (State × Bool) := do
  let k := s.cursor
  match k.rest with
  | [] => return (s, false)
  | c :: cs =>
    if c == ' ' || c == '\t' || c == '\x0c' then return ({ s with cursor := k.step c }, false)
    else if c == '#' then
      return ({ s with cursor := k.skip (k.rest.takeWhile (· != '\n')).length }, false)
    else if c == '\n' then
      if blank || !s.brackets.isEmpty then return ({ s with cursor := k.step c }, true)
      else return (s.push 1 .newline, true)
    else if c == '\\' then
      match cs with
      | '\n' :: rest =>
        if rest.isEmpty then throw .malformed
        else return ({ s with cursor := k.skip 2 }, false)
      | _ => throw .malformed
    else if c.isDigit || (c == '.' && cs.head?.any Char.isDigit) then
      match Numeral.read? k.rest with
      | some r => return (s.push r.length (.number r.value), false)
      | none => throw .malformed
    else
      match quotePrefix? {} k.rest with
      | some p =>
        match quotation? p k.rest with
        | some q => return (s.push q.source.length (.quotation q), false)
        | none => throw .malformed
      | none =>
        if c.isAlpha || c == '_' || c.toNat ≥ 128 then
          let word := k.rest.takeWhile Numeral.isWordChar
          let name := Composed.normalize word
          -- The normal form has to be an identifier as well.
          if !(Identifier.isIdentifier word && Identifier.isIdentifier name) then throw .malformed
          return (s.push word.length (.word (String.ofList word) (String.ofList name)), false)
        else
          match mark? k.rest with
          | none => throw .malformed
          | some m =>
            let s' := s.push m.length (.mark m)
            if m == "(" || m == "[" || m == "\x7b" then
              if s.brackets.length ≥ maxBrackets then throw .malformed
              return ({ s' with brackets := c :: s.brackets }, false)
            else if m == ")" || m == "]" || m == "\x7d" then
              match s.brackets with
              | [] => throw .malformed
              | o :: os =>
                if closing o == c then return ({ s' with brackets := os }, false)
                else throw .malformed
            else return (s', false)

/-- The head of a line, whose indentation counts unless it is blank or within brackets; the flag tells if it is blank.
-/
def scanMargin (s : State) : Except Rejection (State × Bool) := do
  let (m, k) ← margin {} s.cursor s.cursor.rest
  let s := { s with cursor := k }
  let blank := match k.rest with | c :: _ => c == '#' || c == '\n' | [] => false
  if blank || !s.brackets.isEmpty then return (s, blank)
  else
    let target : Indent := if m.fixed == 0 then ⟨m.column, m.narrow⟩ else ⟨m.fixed, m.fixed⟩
    return (← indentTo target s, blank)

def scan (fuel : Nat) (s : State) (lineStart blank : Bool) : List Token :=
  let refused := fun why => s.cursor.tokenTo s.cursor (.refused why) :: s.tokens
  match fuel with
  | 0 => refused .malformed
  | fuel + 1 =>
    if lineStart then
      match scanMargin s with
      | .error why => refused why
      | .ok (s, blank) => scan fuel s false blank
    else if s.cursor.rest.isEmpty then
      if s.brackets.isEmpty then s.cursor.tokenTo s.cursor .endOfInput :: s.tokens
      else refused .malformed
    else
      match scanToken blank s with
      | .error why => refused why
      | .ok (s, lineStart) => scan fuel s lineStart blank

def tokens (line : Nat) (cs : List Char) : List Token :=
  (scan (3 * cs.length + 10) { cursor := ⟨cs, line, 0⟩ } true false).reverse

end Lexer

end SourceAudit
