import SourceAudit.Text.Packed

/-! Lower case letters of the characters that have one. -/

namespace SourceAudit.LowerCase

/-- A run of characters: first, last, distance between neighbours, lower case of the first. -/
structure Run where
  first : Nat
  last : Nat
  stride : Nat
  lowered : Nat

def runsOf : List Nat → List Run
  | a :: b :: c :: d :: rest => ⟨a, b, c, d⟩ :: runsOf rest
  | _ => []

def table : Thunk (List Run) := .mk fun _ => runsOf <| hexNumbers (Packed.unpack 2805
  "8EfY82d9jYWedqug[L5+n*Syyc2K^bIwbt~b?w4S]xxorKe*;[(u_P90R>X%YeQj!af;ey]3ISn(d3m_fc+m>7?VkfId3jA1p_wsBPZ:LEuZXvI.Nmo+O
  ~YA|HvgcWKvBqs>kHa@X!pSDFM|P_8k%l|pFk&N1Rsj2x9uqZkecF>R:1Y|?:9LCY$p=sw3BnQuUh:chiOk5GFmNU.lvV8Hb!f_@hmo(=K9M!rHDLu84*r
  B:51pO2YmnRKca7_IL(qN!l9T@&qdTpc49.s36]b0qW)DApxnQp$lHA.[&rRam!=Bis69w^fkjq;_HHl*LQ$s8!=|hURb+U7Go6.Y$9^oM,lE[wjl&wJSK
  O[;]mCQvE!]C$gPz&@4_u203)opJu$V>KD!(azjAt(QR<7raF[juTi2?(]sptHfbK2FuE+B=B^$+x2v|L=PKEn);^ocPBz4CrkBAnW4E~kUU5gsqkr+4b8
  84Mq&E;ac((KH;%YHE4.[7QPY4]c2ow!LU7Gm4;t|Jkx_9|xq&=^hg7y45gL*T)NE5!DFgW~B9~4oVwhTw%gD=!u+Ty9nl!A5zp%|V=]bJq&_7NVHZ<yKg
  IP!3Dg?@POs=qAK^(9xA>U&aK*l|ridbq&ti,87F|7Uc~ZZCqmG!uD@Mj?vtl=k<?r<?0UP~ySm,Ek)tQ+62q2wJM:kNIxEEoUD1e>m%G;qoWa[AgN7NSD
  =8G;HGm<yV+]dU&3lga+d;q4c%82Q*5??qP~lV:SbZBqrl6A$5+VY=j=Fgr[e7:@LJD=eq7bt0nN=8tA3O]Yr?(!+YaXqG~=C3ep8P!1ZlN?6U_?waX,.u
  !;_(!n2^_NQ$+C(gpPjRG6&)t&W")

def Run.lower? (r : Run) (n : Nat) : Option Nat :=
  if r.first ≤ n && n ≤ r.last && (n - r.first) % r.stride == 0 then some (n - r.first + r.lowered)
  else none

def lower (p : CodePoint) : Text :=
  if p.val < 128 then [smallLetter p]
  else if p.val == 0x130 then [0x69, 0x307]
  else [((table.get.findSome? fun r => r.lower? p.val).map CodePoint.ofNat).getD p]

end SourceAudit.LowerCase

namespace SourceAudit

def Text.lower (t : Text) : Text := t.flatMap LowerCase.lower

def lowerString (s : String) : String := (Text.lower s).toStringLossy

end SourceAudit
