import SourceAudit.Grammar.Statement

/-! Which encoding a source file declares, and the characters it holds. -/

namespace SourceAudit

/-- A character set: the names it goes by and the characters of the upper 128 bytes. -/
structure Charset where
  names : List String
  upper : Array (Option Char)

namespace Charset

def decodeByte (cs : Charset) (b : UInt8) : Option Char :=
  if b < 128 then some (Char.ofNat b.toNat) else (cs.upper[b.toNat - 128]?).getD none

def decode (cs : Charset) (b : Bytes) : Option (List Char) := b.mapM cs.decodeByte

/-- The names of each character set; in the table hyphens stand for low lines and equals signs for full stops. -/
def allNames : Thunk (List (List String)) := .mk fun _ =>
  let spell := fun c => if c == '-' then '_' else if c == '=' then '.' else c.toLower
  (Packed.entries 2247
  "|l:,2Qc+y(W8uWF!Ff=(KJvD.KzUX3%oqV(mt:<kwal[&SM3!_qnLPjv9e24moS(wRCN7b7I]WKPLl>|X4T~AtoXKPm^%E@X)oXW&zm_C?*;2apW5$G8!:;%TWgBL><=;9j?k|F,K&4SjFh)$vKkWv*Oy5$4(%GF9_DqF!?ywmJ(Z1K*:tX7p.)@72I7OH=JsK$|N20,@*7hSgUd](L!9DHiFO%wA|TLM<i!X@;iVQSO$BelFa~<Y6[9%0L.q;>^a+1k,n04(3k;Z]c*H3A7=um.4myT8RROjsv^uUQ9>zX9(N&mGg?jg7~0D!FH[+g8&;imr&hJLG66N]S%g6.+HHtV,tMqiRSdJ9iV_VDw9N9Rr)eS6WFcYQk<:<gfC.auEv.wr*~7o?wJSy;O[%BOabrfoA5l3h]p9nR?aK+A_Y>!:BT66nb7;4!.CrhHvjk<,qU$l~sZ2[zys**eL[$PA]H?s$xIDAr]w76Ct]b_R2F(hH?PbX7Xwr3T:iQ;~vT[=mxrG,*+plwwPO5WxYl6.JUSg&F,NM1]AH;3]wi!1;+<Da,Q4MK.Mf<dq@AkqO,JFWXynZF%L5|nS++@]i)@169YoL_j$8&q+XG?q%FCx:[9))=X066IMY3te@W]wi7YCOutzQM:sGA)^Uy89)+GBW|ru8mr~Ng[UeVJD+l*2abiXlPWF^HM@FJ1Jm2spZ+IC.g]^gssS&abu~u@s):mLJ4YC|S3x(Ag[4Db0Wf52wFB1Oms7").map fun e => e.words.map fun w => String.ofList (w.map spell)

def uppers : Thunk (List Packed.Entry) := .mk fun _ => Packed.entries 27310
  "|nGxqxcEK[B.*k(49N&WjG3y1ELWKjj%O;Hp6l26R|TdZeCjOTWWsgE>YsffKrasV~Mu|*OjHq8YO+:4aJz~Q<qO_rF0e.bXZzO?<NGF32!2Y0EwS@Bv=@JwtAU_mJ5XU.t+mz25c^A_SAB)G5v+aLu6*8,1%+]=Xb(t&pXJV[i]&n8X=rV30*((TuT980[gDD564RA7&im;1Mk?6H.]X)7)aw9:Vw?4^;SiRK79~%ptZbd]m@IV9M*A5do5Ym>&guHwF|k|1m<A&!<GS&kAl61bZhKyvm?t&N,dLt9;x5)*4!~sL5VE0Y5A)[f]i2Xvu]oJzc8,!t;ZO(WHhzar_*|p].RHNO[YBL*Ock?VUOFig5xW%^:@]b.^.Q*RG&vj:@:zIBseZ2aEJVZEyqyVPu(|E|H|IFHdid=N60!bwF,T+USztd5arc=agM~oTBq([>:Dl)0%g?j2AAaj0S.=t4u9VZVAi10.ATZ@?yV?+QZkjK:.%LWP5m~3ap4vt)$N]UO)J?h$0dlwdN3Vg=96VmQ1Xdss!|h2tuA1r^,@BWZI=on.;O6+6u:uV<hrpMW+Hnl.@Mo>RmI|lo>.Ufh^6.f..yKMFsOvK?tfv68dNW9p&d8Fydkt3K<EjvnrU$h>NanbJ^kw,=.6RrefvUOOU7_=)v^e?Bc0AO?Em7k*7nk%@gls6EcU&P%2gXP6,0k.L()X+_c_m|y$nH^[52KCTgRmC]HkHHT&=Xj(8!ZQVB*vgvqtFux;^*H+fCCm_@kAYHj;BvaRuYZ&sio$9!cZ^B|l3a_0SQpvazFB$hfxPq[7$ct3TspduC]kotg_(V_f]L<ns2]DZq6|jQzL$B(gKdDauRD;17G1In>@wWW*0GEvz_kH:WMnj4@NUy3AWbncET;9V%d;2.%5XACP|2T0;UT!Ua8OG]Ylz8(3C3t12Gl5zh8GRo)A_Qwp28~T:LJ7Dkg[o[jOa6L2p<G6x&t!|uy5THW92h9p@BqqAD:b
  =)]_aEmGA]T1A0I,H=i?jgwFMKay?;GyE7E(jyi;[YQPwyOYzQQ,+)syu4btfX!OW[XnSY0ig06Z=U28|6!AZ*n$^$cvrK|gco]Vr:$RiT]Qv<S5,yo4pYJWoR!G23cB)gUP7&NwO2f@+&.SF8lAAA$+h=F<gtIUJV~B:UlMM82d_;1,3y&@vDa,u.:|7FnB*?[qyhls%.A@dS$fuK~8_]e8&Or_2$J>LG+%S__|[7^ojVo<<t)^P_y3l2_OiV23?$7W5_RiVm,fA=c*E^Vs44zvZ$k=1A]R;E|Xg1n?ZvTKc]R9a01kGvgdlj65+P;z[|;@X2Qa_+n)FqvgjHGKD2HJJ4A,1nl3D89M,q3RS@sCS=p93dLl(rYHa~@m,@&*GNU;au[EisA18QZw1F:kw0R8[p8M4%ZA_T$?nW$F+uq1oZNy5@+,|Eh:s4^CiDzO%kWKwK*DlUmY7b)cUEX;k(DD+mLHDOho4v)AKDekjXr7p_32onw2N;U@)Ra*ErmBvCC4&^%~]iuu&G:oi,rGNB8J(L!N95XmqSR+DSc*Rh&5tE5DFL,T.be=;albu3mCgHq&=7mN!%)!w>ar&KnI:L1N|4l$dF2;Ix9kYL|dSGmOY8,d%]>%35z[TDqN]5dze~2^,=L@v%c%TtV[,S*nkE)T5waiY~i9UosB3_3_UV!fp>(LL%^@X5[LvcUn<a$@j_0X^K4W6SpGgbG(5>k4[evW_?Q%,aj^*;lu.$N.HdujUm&1t2y8&sOCQ)7Mch)pDyM_(0Yhrbq?l16V1T.]a]saI8M)V.(gzWGOp&aNSHJ|B72yC_7x9HRaBzfOzBP0TWe%RWNYi5hUvZPXkcZ?|zh?b$d)Mp@l2>b280Cq8*M6iCJ=pyRs>eI.jX3vhcaDp%l)6F.l&62G&(mViYj?&DF*fnT6MrqB5fsC|.<8Wz^TPWa_C,!xdtQ&UsMg,.E_j%R9=R)D?z1g3E]p]gt7laIPA$OnA5M;3r0w9P0H
  h@XJ.F$1vCfVv4GX7y7mna3z|helO=[&;rE%)J|6LfdPoXm_!R=4bC~c=L).hjQRj)2)vw(o^eS2O|=RP3L)?5v^M+Qe(YZ^UsjfD=Yiz>L;]|c)elapdZkh6g0PM2.XC._Kl~Ef5HzBMHfM*:EM2Rw*:ij$||1i*X7Z>Rk],.C6C7U>XVbsw*=F%KJ(t^|&:uh+[f<;lopl]^SRZ$S?.9[7+)GLAJ>b]^go;Xti@Y~$*V:S;)S>t6pBd(aNh$a%z+&cRl@5JW&4&Qc8=Up)Prw4U8ga,Kv;v@smx9Tw?*kPN8OX1]rZqP:~PdJ+44!X6Q<J:J*^Z1wPs8)NoUi!QV0F&6q~)82F!;Y;GXEW4kvg0^p)D6of3p(41>yQ?O%!YEmZ7JEG~4w,nt5*CgN$JJXAH%D~JB5snJtsAofo$4&ZS?T.n:8btXYaQqP8=MGom2jyn;WM)(qcN+plflZ]1Z|qmKchL2bi:g8S7AE1Y5mPE0|v1nWybQIgq&%zW&m&)$6K?SvxKJ3>)pQL8^Zkqrk()0amGgF]mVves2HTQEr!FFe^GI3u!H>V^WW5c.>6U]F0;)$dK,]BY>C<k|gSVhqo*)RYuc4=(TJH3=rnw_WL8yukc~iV6.FuU(<U]CY,Doya13|as?Fc?T~yxwa^JS(l&8|a7D3L:LrKtf<Nm3<D:jf?U<.uMWfiKo<gZCv0RBZqUOV&aFDHdrdegBVib<@.0Jdnz*:LBFB,tOb(27y!5Bt9nV.Wf(T.S;SB|?_5~=lPm*T+!?wXnH&mC8Rj[7cdhT8ieA3!>8>,Ea78_6001^S0NpiWI0g~MVyHm6,*a+zdKbW;6JDgW._NJJ;e5~GN=QZR*a2x|tC(h[v?C52MAMP!yUFGz962El:j*lju7BdGlSl[=iH,f+RFhrBOx6jE;pVwYf$)%QPHvy[hY3@38?I%G|Y4Jv,,L()SfBK>By~:8@NKA<?CMAuc1Jnx*bJyH61_V.D~1<?8EIKZ
  mlqCqnNoWK<H[(.zpE&H.xcd=lL,eitqJuC^jkB*9ZLEIa|lK>A((9Lq6QzMH<Zm9!%5euw=H+,28S1C^c,C[*Op%Njf1~ileG6$?((qSVwTuK&3(_5Cxrz)7Nzq^^!M9qsAVzm>Ofjn+Ykh*1VK0Eb20609uu1Y.9,r5.ZhICg<Swqe=TQ_>!9_Rx.tq>@.eZa5@Msu^.yj[b!(3XwngQ_ofL>T7yLwGMF>AjwV8]QHa$Tf7HM^igev.^so?t4FNJ:9xwxjhyhKZ~|kaR!K!htvzzfEoWfrVUkdoz5ZQPRHz!mEWU0wicF:jO1,5xUh@Q=>jz2Z@6qyfVG1<led=hq!bP><s1UuxG[85wX4BBd>.]^yj.9dW$qu5VGVHqFk|mg;D?[trlJcmNt9XoxpNn~ns|fdL0!|ephG97W9?Y<duJ<>rlW!7+jL!7)Fj5v$Av?<P(6(;b)[z+++uNrQ<daPYounhcho:_1VdLQ%w5UAZkPRI~8Ey<SZg4sn61(8(H98bBL,1gDr*=bG~^[&^qvnCz(13j]A_~IlP%<m$%kejP.%G6VtGDU1gjv(uwxP)S=Q3_C$9etHCLqZf*~)nf?7N*O(XEfbcl?P<@"

/-- Lower case, with each run of characters other than letters, digits and full stops as one low line. -/
def normalName (name : String) : String :=
  let step := fun (acc : List Char × Bool) (c : Char) =>
    if c.isAlphanum || c == '.' then
      (c.toLower :: (if acc.2 && !acc.1.isEmpty then '_' :: acc.1 else acc.1), false)
    else (acc.1, true)
  String.ofList (name.toList.foldl step ([], false)).1.reverse

def named? (name : String) : Option Charset :=
  (allNames.get.findIdx? (·.contains (normalName name))).map fun i =>
    let upper := (uppers.get.getD i {}).words.map hexOf
    ⟨allNames.get.getD i [], (upper.map fun n => if n == 0 then none else some (Char.ofNat n)).toArray⟩

end Charset

namespace Source

inductive Encoding where
  | utf8
  | charset (c : Charset)

namespace Encoding

/-- Encodings of several bytes per character; here they are read only where they agree with ASCII. -/
def multibyte : Charset :=
  ⟨["big5", "big5_tw", "csbig5", "big5hkscs", "big5_hkscs", "hkscs", "cp932", "932", "ms932", "mskanji",
    "ms_kanji", "cp949", "949", "ms949", "uhc", "cp950", "950", "ms950", "euc_jp", "eucjp", "ujis",
    "u_jis", "euc_kr", "euckr", "korean", "ksc5601", "ks_c_5601", "ks_x_1001", "gb2312", "chinese",
    "euc_cn", "euccn", "eucgb2312_cn", "gbk", "936", "cp936", "ms936", "gb18030", "gb18030_2000",
    "shift_jis", "csshiftjis", "shiftjis", "sjis", "s_jis", "euc_jis_2004", "jisx0213", "eucjis2004",
    "shift_jis_2004", "shiftjis2004", "sjis_2004", "utf_7", "u7", "utf7", "unicode_1_1_utf_7"], #[]⟩

def named? (name : String) : Option Encoding :=
  let n := Charset.normalName name
  if ["utf_8", "u8", "utf", "utf8", "utf8_ucs2", "utf8_ucs4", "cp65001", "utf_8_sig"].contains n then
    some .utf8
  else if multibyte.names.contains n then some (.charset multibyte)
  else (Charset.named? name).map .charset

def decode? : Encoding → Bytes → Option (List Char)
  | .utf8, b => Utf8.decode? b
  | .charset c, b => c.decode b

end Encoding

def byteOrderMark : Bytes := [0xEF, 0xBB, 0xBF]

def dropMark (b : Bytes) : Bytes × Bool :=
  if byteOrderMark.isPrefixOf b then (b.drop 3, true) else (b, false)

def feedLines (b : Bytes) : List Bytes := Segments.runs 10 b

def isMargin (b : UInt8) : Bool := b == 32 || b == 9 || b == 12

def isNameByte (b : UInt8) : Bool :=
  (48 ≤ b && b ≤ 57) || (65 ≤ b && b ≤ 90) || (97 ≤ b && b ≤ 122) || b == 45 || b == 95 || b == 46

/-- The name declared in a comment: behind the first `coding` with a colon or equals sign and a name. -/
def declaredIn : Bytes → Option String
  | [] => none
  | x :: xs =>
    let here : Option String :=
      if "coding".toUTF8.toList.isPrefixOf (x :: xs) then
        match xs.drop 5 with
        | m :: rest =>
          let name := (rest.dropWhile fun b => b == 32 || b == 9).takeWhile isNameByte
          if (m == 58 || m == 61) && !name.isEmpty then
            some (String.ofList (name.map fun b => Char.ofNat b.toNat))
          else none
        | [] => none
      else none
    here.orElse fun _ => declaredIn xs

def declared? (line : Bytes) : Option String :=
  match line.dropWhile isMargin with
  | 35 :: rest => declaredIn (rest.takeWhile (· != 10))
  | _ => none

def isBlankLine (line : Bytes) : Bool :=
  match line.dropWhile isMargin with
  | [] => true
  | b :: _ => b == 35 || b == 13 || b == 10

/-- The common spellings of two encodings are unified before the name is looked up. -/
def normalSpelling (name : String) : String :=
  let n := ((String.ofList (name.toList.take 12)).toLower).map fun c => if c == '_' then '-' else c
  if n == "utf-8" || n.startsWith "utf-8-" then "utf-8"
  else if ["latin-1", "iso-8859-1", "iso-latin-1"].any fun s => n == s || n.startsWith (s ++ "-") then
    "iso-8859-1"
  else name

/-- The name that the first two lines declare; only a blank first line gives way to the second. -/
def declaration? (lines : List Bytes) : Option String :=
  match lines with
  | [] => none
  | first :: rest =>
    match declared? first with
    | some name => some (normalSpelling name)
    | none =>
      if isBlankLine first then (rest.head?.bind declared?).map normalSpelling else none

def unifyLineEnds : List Char → List Char
  | '\r' :: '\n' :: cs => '\n' :: unifyLineEnds cs
  | '\r' :: cs => '\n' :: unifyLineEnds cs
  | c :: cs => c :: unifyLineEnds cs
  | [] => []

def unifyLineEndBytes : Bytes → Bytes
  | 13 :: 10 :: cs => 10 :: unifyLineEndBytes cs
  | 13 :: cs => 10 :: unifyLineEndBytes cs
  | c :: cs => c :: unifyLineEndBytes cs
  | [] => []

/-- Whether a literal holds the stand-in for a byte that is part of no character. -/
def holdsStray : Token → Bool
  | ⟨.quotation q, _, _, _, _⟩ => q.source.contains '�'
  | _ => false

/-- The characters for the parser; the flag tells of stand-ins for stray bytes in a file without declaration. -/
def characters (b : Bytes) : Except Rejection (List Char × Bool) := do
  if b.contains 0 then throw .malformed
  let (b, marked) := dropMark b
  let b := unifyLineEndBytes b
  match declaration? (feedLines b) with
  | none => lenient b
  | some "utf-8" => lenient b
  | some name =>
    if marked then throw .malformed
    match Encoding.named? name with
    | none => throw .malformed
    | some e =>
      match e.decode? b with
      | some cs => return (unifyLineEnds cs, false)
      | none => throw .malformed
where
  lenient (b : Bytes) : Except Rejection (List Char × Bool) :=
    match Utf8.decode? b with
    | some cs => return (cs, false)
    | none => return (Utf8.decodeLossy b, true)

/-- The tree of a source file. Stray bytes are allowed in comments only. -/
def parse (b : Bytes) : Except Rejection Node := do
  let (cs, stray) ← characters b
  let tree ← Grammar.parse cs
  if stray && (Lexer.tokens 1 (cs ++ ['\n'])).any holdsStray then throw .malformed
  return tree

end Source

end SourceAudit
