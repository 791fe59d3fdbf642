import SourceAudit.Number.Binary64
import SourceAudit.Text.Escape
import SourceAudit.Text.Packed

/-! Values whose shape is known only when they are read, and questions to them. -/

namespace SourceAudit

namespace Printable

def table : Thunk Ranges := .mk fun _ => .ofTable (Packed.unpack 3257
  "j)V[2J7^>Bk__:i@_>wUB&MZMx@Z2o;J[|.a:YC8hp~$=tyPng9qbYt|7(39>4yrLVKGh9[Dmx_(;rL(%q.$^J(NF5[+=kQ_^p,eJ,WFg2_N5T+*)]_AM
  *z:[%CE![uFn1v&A7[2aWvPGCmhSKq3wkb;BAWajx.rw];1_*+.U?S&W+A8kepTuhHcSZg,l<1)q,~I[_54^Gr:S+,I@Kfxi5I]U.R.2c<$A15TJjZS:+,
  Avwzeq|*$y+nkt&*nTJDMuMdr<.X+?S=q&*lA<Z:0@^4ARbMC3>Of$>hs76UBBh<BA!9|bQ8njFw+Jf[uC4ep&+G|=Oo.fF[FL]*B00%Z:CB?cbyr1E~K[
  P3|>Qi*^oyj=lpMa])W[*~|B]YV[SwNQ)6:Kn+(7Glp&F)$D2&r:r<WldY<Dj(77F%_uf.wncgzsS!8aWAGM]D7&ge%[KwpWNwIi9BVuj%G<:;)Do%_mF]
  $!t,t%*ej,+~KuT>YS3KOHPk:*Aq*$Uo1LTHl,v,ojc(ZL[s.F+Iy%1;=qy8lc_TzT6:6e+W;RLCPi@&pyuaDFYVgt&4!?fZkWrv[t[[nO(qNW8$f9Xq*)
  Yqp<,R^T^2m4,1%^i+]]2j=k=>*S)rVb(6pff=xW%S4gs(Cgjftm>VoQOj&Cu9o+0yAT>AaZ(l3Ml0upEt1_x5>Zxuv[^;4b50[WBnI4Onv_Jhw4eB:?[:
  @BjOlmfP9!VJ?nDF&$ZhQOZ+o:;e<IUB.>w8B]r?1(9A&uK*>PGg>7]8M;?3(~..Mx.w=$A,4?C8XMTa<Q+g(Sg2D>VRu&s3j6Vnx]wbrztD]4S+sZaaAA
  xXBY@]FJDHI4j&Hd:EAU!Uoo(G%R[|h;!O8F;z7x4emlc^7ORv]TSAj2Juq]|Kz<?1WHjpraREp>b9q<~bNG6)@eFxqH&<;5Aw.<Sl>5HvDveHTqR~kmn9
  PCE+T[NI=.o<Gih.Pa8.j.M(nkDFC^W@?!EK8ewHt4aW0GZrh_X!xSbf>L>:(<bJQqDTBx?+Dkhk&mD4?fL[Yv1e:Y1t;>|A%**bZq3O~7wJfOgO:iG!G:
  j3R?>j>s6eFCV!rIC7kaD90[_jX7|88d[h6UCW]BqHNc~6gtJe4Fs4k>Q^MzW_&nHJ+Nr)JaNyj5%T3Ekok<5vd4au&9Gp&dnX]y(UCo5kEFj^ZC$_90iY
  lj2EJDHd~jJi|IULVqUk:.h5jW84qdffj,f4S,ErnT1MBmj!2HtJ?4tlh:B2;fk1)mi.rwF?%Q44%xBGk>.;SP25H@fr1B")

def isPrintable (p : CodePoint) : Bool :=
  if p.val < 127 then 32 ≤ p.val else table.get.contains p.val

end Printable

namespace Quoted

def quoteFor (t : Text) : CodePoint := if t.contains 39 && !t.contains 34 then 34 else 39

def escapePoint (shown : CodePoint → Bool) (quote p : CodePoint) : Text :=
  if p == quote || p.val == 92 then [92, p]
  else if p.val < 127 then Escape.encodePoint p
  else if shown p then [p]
  else Escape.encodePoint p

/-- Text between quotes; code points that are not printable are escaped. -/
def text (t : Text) : Text :=
  let q := quoteFor t
  [q] ++ t.flatMap (escapePoint Printable.isPrintable q) ++ [q]

/-- Bytes between quotes behind a `b`; all but printable ASCII is escaped. -/
def bytes (b : Bytes) : Text :=
  let t := Bytes.toText b
  let q := quoteFor t
  [98, q] ++ t.flatMap (escapePoint (fun _ => false) q) ++ [q]

end Quoted

namespace Entries

variable {β : Type}

def update (name : String) (f : β → β) (es : List (String × β)) : List (String × β) :=
  es.map fun e => if e.1 == name then (name, f e.2) else e

def put (name : String) (f : β → β) (new : β) (es : List (String × β)) : List (String × β) :=
  if es.any (·.1 == name) then update name f es else es ++ [(name, new)]

end Entries

inductive Value where
  | null
  | bool (b : Bool)
  | int (n : Int)
  | float (x : Binary64)
  | imaginary (x : Binary64)
  | text (t : Text)
  | bytes (b : Bytes)
  | list (items : List Value)
  | tuple (items : List Value)
  | set (items : List Value)
  /-- Entries in the order in which their keys first came. -/
  | dict (entries : List (Value × Value))
  /-- A day or a time, in its written form. -/
  | stamp (written : String)
  /-- A piece of a program that stands for no value; no two of them are equal. -/
  | fragment (kind : String)
  deriving Inhabited

abbrev Fields := List (Value × Value)

namespace Value

def str (s : String) : Value := .text s

/-- Numbers compare by value, whatever their kind; a truth value is the number one or zero. -/
inductive Number where
  | whole (n : Int)
  | real (x : Binary64)
  | imaginary (x : Binary64)

def number? : Value → Option Number
  | bool b => some (.whole (if b then 1 else 0))
  | int n => some (.whole n)
  | float x => some (.real x)
  | imaginary x => some (.imaginary x)
  | _ => none

namespace Number

def isZero : Number → Bool
  | whole n => n == 0
  | real x => x.isZero
  | imaginary x => x.isZero

def equals : Number → Number → Bool
  | whole a, whole b => a == b
  | whole a, real x => x.compareInt? a == some .eq
  | real x, whole a => x.compareInt? a == some .eq
  | real x, real y => x.equals y
  | imaginary x, imaginary y => x.equals y
  | imaginary x, other => x.isZero && other.isZero
  | other, imaginary x => x.isZero && other.isZero

def compare? : Number → Number → Option Ordering
  | whole a, whole b => some (compare a b)
  | whole a, real x => (x.compareInt? a).map Ordering.swap
  | real x, whole a => x.compareInt? a
  | real x, real y => x.compare? y
  | _, _ => none

end Number

mutual

/-- Numbers by value, sequences item by item, sets and dictionaries without regard to order. -/
def equals : Value → Value → Bool
  | null, null => true
  | text a, text b => a == b
  | bytes a, bytes b => a == b
  | stamp a, stamp b => a == b
  | list a, list b => itemsEqual a b
  | tuple a, tuple b => itemsEqual a b
  | set a, set b => a.length == b.length && allWithin a b
  | dict a, dict b => a.length == b.length && entriesWithin a b
  | a, b =>
    match a.number?, b.number? with
    | some x, some y => x.equals y
    | _, _ => false
termination_by structural a => a

def itemsEqual : List Value → List Value → Bool
  | [], [] => true
  | a :: as, b :: bs => a.equals b && itemsEqual as bs
  | _, _ => false
termination_by structural as => as

def allWithin : List Value → List Value → Bool
  | [], _ => true
  | a :: as, bs => bs.any (fun b => a.equals b) && allWithin as bs
termination_by structural as => as

def entriesWithin : Fields → Fields → Bool
  | [], _ => true
  | (k, v) :: rest, bs => bs.any (fun e => k.equals e.1 && v.equals e.2) && entriesWithin rest bs
termination_by structural as => as

end

instance : BEq Value := ⟨equals⟩

mutual

def hashable : Value → Bool
  | list _ | set _ | dict _ => false
  | tuple items => allHashable items
  | _ => true

def allHashable : List Value → Bool
  | [] => true
  | v :: vs => v.hashable && allHashable vs

end

def truthy : Value → Bool
  | null => false
  | bool b => b
  | int n => n != 0
  | float x => !x.isZero
  | imaginary x => !x.isZero
  | text t => !t.isEmpty
  | bytes b => !b.isEmpty
  | list xs | tuple xs | set xs => !xs.isEmpty
  | dict es => !es.isEmpty
  | stamp _ | fragment _ => true

def lookup (key : Value) : Fields → Option Value
  | [] => none
  | (k, v) :: rest => if k.equals key then some v else lookup key rest

/-- Puts an entry; the place of an equal key is kept, and so is the key itself. -/
def put (key value : Value) (entries : Fields) : Fields :=
  if entries.any fun e => e.1.equals key then
    entries.map fun e => if e.1.equals key then (e.1, value) else e
  else entries ++ [(key, value)]

def dictOf (entries : Fields) : Value := .dict (entries.foldl (fun acc (k, v) => put k v acc) [])

def setOf (items : List Value) : Value :=
  .set (items.foldl (fun acc v => if acc.any (·.equals v) then acc else acc ++ [v]) [])

def get? (v : Value) (key : String) : Option Value :=
  match v with
  | dict es => lookup (str key) es
  | _ => none

def text? : Value → Option Text
  | text t => some t
  | _ => none

def commas (parts : List Text) : Text := Segments.join ", " parts

mutual

def render : Value → Text
  | null => "None"
  | bool b => if b then "True" else "False"
  | int n => (toString n : String)
  | float x => x.render
  | imaginary x => x.renderImaginary
  | text t => Quoted.text t
  | bytes b => Quoted.bytes b
  | list items => "[" ++ commas (renderItems items) ++ "]"
  | tuple items => "(" ++ commas (renderItems items) ++ (if items.length == 1 then ",)" else ")")
  | set items => if items.isEmpty then "set()" else "\x7b" ++ commas (renderItems items) ++ "\x7d"
  | dict entries => "\x7b" ++ commas (renderEntries entries) ++ "\x7d"
  | stamp s => s
  | fragment kind => "<ast." ++ kind ++ " object at 0x0>"

def renderItems : List Value → List Text
  | [] => []
  | v :: vs => v.render :: renderItems vs

def renderEntries : Fields → List Text
  | [] => []
  | (k, v) :: rest => (k.render ++ ": " ++ v.render) :: renderEntries rest

end

/-- The text of a value as a message shows it: text without quotes, the rest in its written form. -/
def display : Value → Text
  | text t => t
  | v => v.render

end Value

inductive Fault where
  | missingKey
  | missingAttribute
  | wrongKind
  | outOfRange
  | badValue
  | tooLarge
  | undecodable
  | unencodable
  | noSuchFile
  | endless
  deriving DecidableEq, Repr, Inhabited

abbrev Answer := Except Fault

namespace Value

/-- The items of a value that holds some, in order; a text holds its characters, a dictionary its keys. -/
def items : Value → Answer (List Value)
  | list xs | tuple xs | set xs => .ok xs
  | dict es => .ok (es.map Prod.fst)
  | text t => .ok (t.map fun p => .text [p])
  | bytes b => .ok (b.map fun x => .int x.toNat)
  | _ => .error .wrongKind

/-- Whether `needle` is an item; in a text it is a part of the text. -/
def holds (container needle : Value) : Answer Bool :=
  match container with
  | list xs | tuple xs => .ok (xs.any (·.equals needle))
  | set xs => if needle.hashable then .ok (xs.any (·.equals needle)) else .error .wrongKind
  | dict es => if needle.hashable then .ok (es.any (·.1.equals needle)) else .error .wrongKind
  | text t =>
    match needle with
    | text n => .ok (Segments.occurs n t)
    | _ => .error .wrongKind
  | bytes b =>
    match needle with
    | bytes n => .ok (Segments.occurs n b)
    | int n => if 0 ≤ n && n < 256 then .ok (b.contains n.toNat.toUInt8) else .error .badValue
    | _ => .error .wrongKind
  | _ => .error .wrongKind

def entry (key : String) : Value → Answer Value
  | dict es =>
    match lookup (str key) es with
    | some v => .ok v
    | none => .error .missingKey
  | _ => .error .wrongKind

def entryD (v : Value) (key : String) (default : Value) : Answer Value :=
  match v with
  | dict es => .ok ((lookup (str key) es).getD default)
  | _ => .error .missingAttribute

def beginsWith (t : Text) : Value → Answer Bool
  | text p => .ok (p.isPrefixOf t)
  | tuple ps => ps.foldlM (fun found p =>
    if found then .ok true
    else match p with
      | text p => .ok (p.isPrefixOf t)
      | _ => .error .wrongKind) false
  | _ => .error .wrongKind

def isBelow (a b : Value) : Answer Bool :=
  match a.number?, b.number? with
  | some (.imaginary _), _ => .error .wrongKind
  | _, some (.imaginary _) => .error .wrongKind
  | some x, some y => .ok (x.compare? y == some .lt)
  | _, _ => .error .wrongKind

def whole : Value → Answer Int
  | bool b => .ok (if b then 1 else 0)
  | int n => .ok n
  | float x =>
    match x with
    | .nan => .error .badValue
    | .infinite _ => .error .tooLarge
    | .finite .. => .ok (match x.ratio? with | some (a, b) => a.tdiv b | none => 0)
  | _ => .error .wrongKind

end Value

/-- The first item for which the question is answered with yes; items behind it are not asked. -/
def findAnswer {α : Type} (ask : α → Answer Bool) : List α → Answer (Option α)
  | [] => .ok none
  | a :: as => do if ← ask a then return some a else findAnswer ask as

def anyAnswer {α : Type} (ask : α → Answer Bool) (as : List α) : Answer Bool := Option.isSome <$> findAnswer ask as

end SourceAudit
