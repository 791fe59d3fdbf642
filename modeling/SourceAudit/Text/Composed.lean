import Std.Data.HashMap
import SourceAudit.Text.Packed

/-! The normal form NFKC. -/

namespace SourceAudit.Composed

/-- The parts of characters. A last word N says that text in normal form has the character for its parts. -/
def decompositions : Thunk (List Packed.Entry) := .mk fun _ => Packed.entries 34498
  "|nUGn7e&vNNj6XTXWTT721RHv7Q!iitulD35jLlM*:]*>5Rna:=8R@M^9yR6[an$fKf=|,XnjE2X%VlW)y|HyNaDHO!&21=$NTt<ary>RGJ27W^d+n[!|e52R4u9+Q_b%]>G2Cf9_(3l<JkkD*vGfvZa&SzWcz4Nbo324UbCMe.qmL&P<ZL%S!SI2S^2eMlQYvp,H]vC@GY)6aDOtp!<yT2?xCKHb.<[J|r$%V;q&.1;?]SAgwK<;ka&qsR6p^UM>qE4H(aC>e9UC=v3Jpa5~k~?GP>268TLca@JL=<AZyjVyOQUK,jzkKp$Y]sNP]Uf)ej>|3fVwk>eTS*69gzZWfSm2=Jh<,c(J0?bT=*|Nql,WV;Y~Vb,V3^cgk*O2*T)0(<)66:UMK&9eUth4tM5OfC=SFaZHr4L>Ci1fKGfG>L(h;itBh7+|Cgs[+aVMFOm>3(&V[KeXmAql8Z36Ws:bBVm+EIgM4+y.5hzzF?t]3@(RXxjZCIM[(cLX1q2Dz:0U;nlT5E&o=+hSS6:8&kT)^kqauXxuahCG<=m9)u9:1^X@Nla9IUnoI]z~nV^1FwBCZ.^@7,v$[MP.!qy_s|km;^]XH]G>B%px$K[Lxs_TyXGIpObCM&S(%|jy.SO^~r@:?$fHO)9cTqaGiGyUpjF5H]LKa^xwG<Ru7GnY5HyCI_(J2YO9uc;r>qDpTYFT)|!@6m@qZgzeTZ&Jlmr%+EUB^*=)d*WX2Vb@W=rlv1C*U:LP3:CR5hZ6>7z[A,mUhBog>hG=rM|viF.uhmc:%=A)L.3^_12b=^aWoK~$A+A]U!mkCbCn4mL.pC;(LZX1[z3o|b5~qwk^Wv;g*>,%+Tz*@A1!l.%cl?JyAza~PN4HS2pL$zl=NJl!YkP_wG0fE!Y<=Cior2Bc@NPhI2s]ygU.c,wRi9(yU8snH;5cGV)dK)IL|YXYJ5Bet<Y!nD9wr<a9=V|h&3=sRqS%>[osg4N@9ScWxV9zdc;J=dzQ(lu
  8;lGPzQto$CLT8Ej,<anRUkzMGTm5y4rF&Fg;MSpN]AeO%Oe3Ni6xC<[srhMEx?6Zv.f]o)dV+Rz?4~k)WcGQ;Zi[<:=47.$;_fm3uUR|EKT8t;=[y;mO*&N8K6q,>ISX.@~fa)A;3wnrn&NGr0rZ4d>&s+~_Gn.I=R%8$RATjX7lxWt$9d$R.Av~V7MpmK)~u3N>lZx2vt%SpK!Eka;xwljjnR!oH<^Nc.HCKB:;kSayOJ.32e8QNC6EZUS:Tr,[n2J0++,*w_(aF?.$f~Dt8@,[.zp0@<ylXr@$!aO&Qz&(Yfsh7O9_7b&B~RzZBpPe+RPCnD$x.<?,ACPaBHBD(%jW6;5h8=y(xrk!WwiWY?$zRQ+Iin:C~qpEPq:V?B_5F[fm~=@ZXdkKdDJF<l>e.3hVJ1~PwvMDitgED8hQ(!m,FjVSgu]GGg%8aCTclZ)OAjf=PSYm!QyC;OJDIXr4.bG[vCONdUl^[vbC4wEtm>W]g:T+TlnCSrP)(H[b.:s,l68:A060D|6~8(UMO>?_ZCz]HyQny9|NMs3LTihU,X~v.W?TIL0&V@2!])1Pk?Ei4tejn,9Fi4@|7*RuN:Jur)uul:gN:VihY&oE@uP^1WyfR>L3z[%UDYh@:%m|52b8S~Y*b?WD~Bq9Y5v~E^PqgztuPMdV4X).xPoNJLuHCca,)LpTof~u?;RX.^Jc9xvir|IVkzkRkv[mhnHLpo.6X)e9ExF=qK0F0XKA~7F|V|tqKADk+npv1Pi%6,Qs;7|]KnpQz(u$)gZf%:E_5gj>$UI7w?4;mh]QcRtd8]$;ZIX^La[W0i|a^;p6]QL*%^Gl:9|umu9K_Yt&+M%]0<4LTc:XUU%sR2W[YpFikUEe%V)Fl=]AKoeyjTPXVG_.y(_f8+RQ1n6:29BzcdC^?G5pg+FK0pB8nQ~P(||0]5Kf=gS4j=5DAG?Y1W?=]d<*QPziqO&&+x>iG1fa4(@ja^N%qZ+xIcPIXz$cmKM%bm>
  pH;qu8WKz^D)HXf7+=*IZc0E2Wx^VG0ZjG~|Oz*kR?ZB:DlR=B7cvz*$&3M<I_W:j5*!J=iGPtxOgp9Ix!,[vOITFWZ)%3Q*V5EjPlp$26BWZFv<;%j=5+=@$|60]F%r9?@0v8wx2RH@W_S(!0Y%!iPXYd&c]d3^]PJe^w8%P0dL4obbhDYuk)<tT%5[PT*R6W.Wpb;i~$>[l,A^9+f2**?M1OiRqwp%7D_1e7viUzYnSs^)B*huDyG[1ghQJT:X9JV,q%@r.ys81Dwj$4!ZLl+kBkT2=Oyoiwh2HGEC;3G:5ifvc]U;BD8Sy!I+AQ&XnaU>L$)D*KyN^].mdy&SfDs<%g_RPn!xHd0Fs:g+s3JkklQ[AFwRycrImKj6SOb|*H!WD>$.=Z&+iZGZa.<<~i2%SAvgHt$e]x@i~V_ZaZy5jP9+t?Mr5W087gPmaoqz7ulqf6|dr$w,(]16)BvZZwY+VPrNpJ?Jw<LhG=hweWQW99d[~$UQ=szfqgl@+Ij6L^H0yn2IM47>l;QzNQ+IY,6wwc:o!DG?fqys6A$EzqlJ|$r+vi5c,hDE,&OE0I<+f6Dyw]0q5Q8_A9>TQgCtrj|cWCDs1rpkq]&nIpv3j:oY(uzIYd>1OaBa5;ngTuvif28c+2.+YZ>[z|lZfVQH&m:vs2U&iD=>bsQcAybyOD+ibTWBGueRH0K;xKkwSj>!SKD=[SWnAPM[aMSyJoLeVtCK=Hy1Icb)QH0A?z6*&ez*$;fC.L.mM[X]xd=~h$U|9eeTJOVf5zbF;otXb.2JA+>v[!+HdUU)A!sS<YWzr8ee?OkKdZotsCIh^WbIjYWf+MC*e%og~MI:G_oYe:Iqp24*@gu+5=1k2IHsqgfNSAKjzV@LLr)q1@z>JqRcuxjK|0.WAO)!;bcW09^oC]8Qf!YPCTm.Vyb@b+w^p$(<>_n:7wkaJ,3w)~iUF$d1r5fBdFrHQ7qc>;>oP]h*H^r+e7X8$e:cz;a6Yb3nIlYa
  |d]1B?o&,uXXG1D~JGOT6]Jet&|QD+YHSxwuJ<0TK87XlFkm59>i;2)v!y~P04XORjCIykE+1vX8Ln7MhvZYPr$1oic)2%BV?gNg).,nHG<u=wR.O+q)o^dd&e?:bkBglNtLJffQERU5~TKt<7AnB(,$Cg+>yN;g@U~_?jRQSU]nGJrl:G5n30WW%dWlmma)eb6l,Z3!ukk]A[60yo?W>^Zu^P+@9pTXJ8JA%x9QPBpWUJV$Y)Y(R,t)I51%pQ5t]Mg,)@f2!NpbtaosyEJb.;~.bm0H)(8cIx]W!|FdQR~<]4Qts,wW~aj<xc2*|bm6CF&T=7.oJx@TEpSF?44holDFXP?CD9v0sB4EBTLXBLHzD<0[J6:DYM8X=xWh&CTVTpwJ^eRGCv1AgS[[NI|WY5A~PhVeLO2q+g5A2lW(RcMT^igxR<Rs;pnVVtIyZv(VWH7FUOl&!1Cwa>|28WmF0]wyOzf>v$d!!Zcoe$td<vHZ9~fzL3wr;w<a9+xB%!DqCqraa]8b)P%+1sIM[m|U4j)2IqB3l@Np5_zngNQ4%])4)+*(:?W&_u:l:kGxfW?ze<8XFhVc(&O:Btxs<eqH2>Fj2A?lbsdjNst,eW?Wb)bj%y^+^@[!zoFDvXf9l(leLpMO9y<8qre*?EC$>v5%W?fH$:p6NXwN&^$NyhXx2!C?jJcha1XY%[jTzumMzzda,EQZjB%B?rPX_UO=>Fp74RBS2LN|c<=yk?BX[.;~z_)7K3$sN~_ONb2|%eBbfQt35Zktp^q6Cyxigt)S[XB6~W|S=O5Uje+dSHbIC10pzTJuQ>i;^+MNEiKoikD)OcNTAE]aTXgQ@ew+Euc^We:U&,chrTrYA.Y=6!O>4lvIp_rl):J(=2g&kUn:hNqIQ^RmtHz3mW<XSD+~ybg8k>N3Cw+y!jytj[m!Zk*IT$m?n0m!E)ig[FAF7CdMH*22SJqHO+qWVVpt]6%4q<nQE~XFuc=R.0KP06;cx$EvvPlU
  R,<Mf!vl9mS*m%2hfWMrt2)Diu*jwh$kQv0|*VFiZ;]$]Z)2W,1j$oG=$;QZ)V>)l26)MwM,2j?VWb5OC@IzsZp;2GtH)l49=6k031VjWIZm$Z)z?oS@PwAeAOoO2cJUtRRuJaH@5_o(q<JJ*4hVG<z*Pobf*<9;y&S@A[u63kWf9avQ_p%Pk,281Ak,x(])=bIY?myhEDuro~ho*kZF~yxKxGW<<_8]~fV9I!~<zQ0axW.K<iF>sQDR9h2^Z6N8&knCGspiXa.kEGJ@?22pDCJFV*+^Vg+o2ZP]nPLa;Zf;yG)=LZC?G>2aB]%Q[dQM]xnAxB:u8w~t4Xl^WX39YTX<vxV7g90LNK(MU&ZicI)pQw7pO@>&t+GAF]vr.CKbhJxrwBgTsMMq<PXo!iB8sk%VSbdxp3U,Wr9%4?VYE5s~;k.lDvg3]h&|W)E(WgLkLK5NCEe.TDH(+!j2b5U0BfMFXAl1%M5_HTW?f;i7Ke<wP~pY?H=N[2LA_UHzK]w)eukGEp?TwZUN~>vc,Ti;t4*0bZHKQ8<cbK=3geBQ^)QtbW|4X:@u]R4nZggh934wl[LyeS*9_L&_,%w2Is^:yl|p%e^t<2c>:GI[QKMjZP%TwuxJrtg9^$:0ci<OC=;JxfVG9f0g^gUJFeOlc~uU|pl5ED><hcv5g$j^YYN,?[?H+_^6c.Rdl=<E;%aS5y$KUYQ)VG19P!=us;_lxZ<><Bt>~Nl@i[OEve]1Ay|;&dXnSk5D7s)jGR;VCOwA=QaR*%ivD.PdT;|Pld;O9ayCYA%g)JkD2b~j~ec2(+xcIVC|O)C>N0Z~<^:P;gW;b=Y>2P;z+Fw9j4mZEx4X0PxmBKHoCH&KoKbrI<3(xLIcXbK0J?KIT&>E(Yh+=|zxs$df2hqi25xhI4ik(p2C4]U6kzP[zbtr?el:|<d%yp;d~~%j;[sIj~WdE|o<q9BZjp8jMFa$@&9,egPx|=c+lFoL>IZcom1kvK?_n)&|Ko(q
  ^mYwRM$%P3&>!Ti(^u&o5jM1B8)K~W5j3U7.8MCV,Go@uY]>nwlF%oD4w;wcN)0Jqj)_6p91^8ldM6i.|[vpE(P1A][l(Dz^:|QjxW04sf*dFf+*wUysWk.[mQ0Jh*wg@=S8,^:*~a(.d!i@(R))r)(dx402pkI4PkoDc($8W@7E8jAJzb*!B;:Nv|F:;WGxRt]VizbCC5L3t8GM_%8vBei9Lws7r9Cbd?^]0:?ZB(9|h@Oegn~!KGQvqlo.kGT%I&=oPW$HG.KcoyKc7.QRK+RXJis4$$hAxxBbh?0@3n25YBI9LnILOEIaeHc;l3s|:+mcw3x$D=V1)6>d3anV>S7i&~]L|J_[:XlU@_!w(|4lA]!WH<pAIqQ,fYD^9)fY98>~CZ2aLJvA!F@&(0v]F^:K|A_RNpYy^[E9ml:2=5O5$FhD[f^6Q3o4L=nvL4k(yE(JRZ2o*q)O9R2$VLO5bevT$Us?b%pcgV<Fz^_v6RWhqiDDJ*P<^gx^,89@FX.a1qOxvJgLwG~yYq4Sf)qkx;edua:dhyBKj=5$fD2YJeyDeP[VLx&JG~U^i97.G&><N:f$OT@FGNwj=8XW)W(3NG~jz^D9!]kV]4M$U(.PxDI3X:Lwi2@JYHFIQqD|2|%P1cK]wY:%8)AM*StzW,jFV2&pnV[k($RF6=^pabw_2J@hW0.q.KG@*=:lR&Kt[uKp[]xQUl?jBm0?efJ@9<56]0kdu|VF%nVvDbFx2Z$YEwP^agL<ESyb[<?TTW|[joSrxK>O,_oX;p.KGLI7,[k;On*tpfIm|.w^>7:A?rlgj5bLBTinG4HJV6_<J?co&S^X2%EuXGInpz[NL6iBBfN::_I(8_a7WYs;:IPknh&=pU)JX78E,CyuX1=_6yN3:J7INi?!1voWc&r(HSV_z26yBMo2hQ74d[__>~~Hy7F.gb<uNvcW,vySEJjga[X0Iy*)wdVljO,QxQeWu%rPO3J4t%j@~@^CRBoPJmpg?0ko
  Eh8)?bo=&FMHc)?+bc[yw&Av_TljwX^,hwvA>9yKJSN+fu!v*O~]0qh@%2t5v([T~..kXD=W:H&wFuJ;qEPs7$[lm_w<6S2WCD1p|qp[^L_Vc&mHh*bjSW@>1ABQfZ3=LFJAVUz.1riTQSoITgMx!(UV4uJ1TLO,oo7R@Z?G*ra60$jnM;gP_f@g<11QLCj!^ht>l~VKRfgQ(k?[dhe>y^r=3:=AWrX$K^aVbNHS*F)?W4>u9J=XFYVe*Pu;$:7ID$75mpfPTD_Pn:xKpS:?e%LB<pR%<@vqHI|~$!*J9Y!S476mO[Lz@e8AMf1QsRzdXe7%9!&T:dPdjT3QyJ*6PG4h<8nJ>Ce8%Mfm[&p[h|NG@*3mARJW(:cy_lpX:8dfu>L]^6MAVSz09^06*;w3)]tqHPr5pg3Xz~K7N4WEy]J|AqRx^r==;J9Q6X8UFgko|=%$mJ.,+p3S7F41BM9MqfDZJJ@gvnn]J4TK^nPAf)*Phyt$dg~tQ6XoVKlomKa*Te3.S.HZcNDG!LgebnY3(I~dbK:8^y*uj<ti&?_JceAna|1uILiC[p7,%2gUPOL2kLpPW&C)8Mm5$ea4fX=TpVf@(rm$|piE];9~E(!U+UT%MXq,811T5iHI,VyHnqyef5C*i20kMh1.w47m!egV(e^M6:r!bUV^P,AB3Hs>A?l&*]KP^!v%E[SA.OfnuWR0DUzVis3,=W<|C7.07yBhJ?2PWquCK18AAG]$;j;9X3TWKA:tFk^cdEmlbgM$v[7z8Je<!7uZjy1Lx>7i$sEYl:KEgSC+NT_yC$uPOclc|4WNm!yDkty.s5*<dp&W?VP82~J37eMy_H]w5IQG58vDF>HP.pP:&ePI,oT[_qA=VHC,pg!KQYL)z;tL:YQ2xC8fwTM>k@Tvu[m6i^bbgRDyXv5N5F>vL^J<+~p&;w)S8fYzgAuP?aXCd4.(:wVxoFop!g<YpX<=!!|Mm?:GarJM8IOtpJ$uB&Mh7|lOs9)1
  Nj9ngaUW[S1$Sg<]X&z,Rl%,YLN>T5crhq[=^C>~pyEf11I$9)NjuBL@IB]H42X@w>:+|u=pE>LM.b_=mRMWE^IvvFRCdi(J?f>OM9edY^>>5.=@WC2c2?x?Y8Or6_lJdtwgHFXlRDsvuPzuxir5_Cvw$^aY^C!CL9TskCcH7mpZSPalA2?V!m0*5ct0LOuUnuIMMiDyU15|Xz2Co.OB(R=CN[v%:ZdIEb:N=W$Sa%=9,.la++?>IJqEGqgDH!wpjP^c,Bp&TTmL4A1rgCKT4xuh?;@U_YE|qQj*B[i2up@&qI|QoB%rSlQmcu2W[^Zi*AVE6ktF:N~CLxVeqn$CuGt^XW~od1B4&DQKU)6:XyD&!<VpV%$UAp?zd)M*A_Pu@pc85a_g;8*GHPQ4X5xVQCqtBdHYMikznYq0Y=UGC+:S)e_@MyH*>5Qk)Euu!g4aYR:QrWI>2_<F@+|puDSe)h7mQ=u(r2a:EUEwdNRk~t=8cm,OH(D>ve0=76j_?qLxL89DEhV=7X4IK<:E3T(Msb|w*UfF8JD)Pr2J*j;%0f[qeIUaFOqa!;:]U1H)bO2Lm?KQQ;(~3iVHS@>v>TlGIGX9cG1zX9,AJ6^xBYgjJMe8[9Oq&o_~y2^1y&pWpv:QXT+SE4siAKKjV=*bBDv8bcK<+>_tHjTtws8]S*n,K>uF!IksQVVL$Y.Dl,M^T0E0EQ^WQGR:g*wf6fos!Qw&zi9R[sK+w=>P_WSAMUzNs=^BSKb:uc!N?mppMr.Y;^ib,@atGu8SK?VB%FpG|6vR?B2Tye~jhh6eFxK[wSBERAq^%cu_)(_d*.xQ=nMsA~J2X!$jJQE?4]0F@MvAjq0+yyXQ4vhq%m9hF.>EZx4X9d7jP_Y>hWzFtnky|$;A^nQ*St,nAmtqrOFw0?u:k):whQl_Pt.?Od"

def partsOf (e : Packed.Entry) : List Nat := (e.words.filter (· != ['N'])).map hexOf

def decompositionTable : Thunk (Std.HashMap Nat (List Nat)) :=
  .mk fun _ => .ofList (decompositions.get.map fun e => (e.point, partsOf e))

def compositionTable : Thunk (Std.HashMap (List Nat) Nat) :=
  .mk fun _ => .ofList ((decompositions.get.filter (·.words.contains ['N'])).map fun e => (partsOf e, e.point))

def markTable : Thunk (Std.HashMap Nat Nat) :=
  .mk fun _ => .ofList <| (Packed.entries 2214 <|
  "|ndxs!r]xca3>e+8F|>~.8z>VE*q)mSAQlRU7wiTw<RcUcPVC&<tIh@:p*^pY65:=8a(ImreF9C4DH[v(0a;R$7c?_^@zfk32W,6_&<Da:Gc<:kW*H3~hdi.<_SDByN;K5CXcpOiMMtp_.lny@~l%dYF~c1+j!jzDdQvv_dgIDJxwf1;b)Af~FYAv@g5!Ji$),!I_u+$mOPngvqnk@6W]pZ8ts7&Amp~$Rvq%X%qar$&z;@ORdV_n1~]5RrSEsNI:+fTbir+Gwx6yMf&b~+x^]E2x^<%1vj^ougX1<1$q)),r!?4FC^_m*PiLGM?V.T!=+i$f1ab;I(dc|?iYj_=8(,I8L2K;]V)97&Kw_HPVoW!JS).2S8u%aSS|Kb<I)z+MIYu55x5laUabmNp_Mk$YFL*fMoPne?;vFd;vDuRh81YT0&uO)98k5G^10Ujm7zN4G;L0;w^GUrY6.nsUkW!>[T,w[ZwI=e7VD%Lqm!JC(!ov+lMGlr3XXfhB(v:[lw:t;I50C&4Ga.!=KMoDK|<*fQtQ~3~:XxzC@qzu2nYfqm3>f$WSP7MTBDh*u>3ow$^0Jgm>|2A=|5FpW1OVlBgznhsXl0.>$dRP9[In4C_9ph;<SXwz:;Mocdsu>hV&ao:xT7mhrflUQ$RN<+=+?0Q8ZC**?3yJV>T$kDPqH?sxuPZ1_&)c%bAO~9AnNLp~vxE$xIEB9;GcIKR?QyC|[sAC_YvUi.q,X+LoA+R<8mR22%UHqKKHmeLca?VHhxRAxf[L&i*6").map fun e =>
    (e.point, (e.words.map hexOf).headD 0)

def markClass (n : Nat) : Nat := if n < 0x300 then 0 else markTable.get.getD n 0

/-- The syllable of a leading consonant and a vowel, or of such a syllable and a final consonant. -/
def composeHangul (a b : Nat) : Option Nat :=
  if 0x1100 ≤ a && a < 0x1113 && 0x1161 ≤ b && b < 0x1176 then
    some (0xAC00 + ((a - 0x1100) * 21 + (b - 0x1161)) * 28)
  else if 0xAC00 ≤ a && a < 0xD7A4 && (a - 0xAC00) % 28 == 0 && 0x11A8 ≤ b && b < 0x11C3 then
    some (a + (b - 0x11A7))
  else none

def decompose (n : Nat) : List Nat :=
  if n < 0x80 then [n]
  else if 0xAC00 ≤ n && n < 0xD7A4 then
    let s := n - 0xAC00
    let lead := [0x1100 + s / 588, 0x1161 + s % 588 / 28]
    if s % 28 == 0 then lead else lead ++ [0x11A7 + s % 28]
  else decompositionTable.get.getD n [n]

def compose (a b : Nat) : Option Nat :=
  (composeHangul a b).orElse fun _ => compositionTable.get.get? (decompose a ++ [b])

/-- Puts a mark behind the marks of its own or a lower class, never across a base. -/
def insertMark (mark : Nat × Nat) : List (Nat × Nat) → List (Nat × Nat)
  | [] => [mark]
  | (c, k) :: rest =>
    if mark.2 != 0 && mark.2 < k then (c, k) :: insertMark mark rest else mark :: (c, k) :: rest

def reorder (nums : List Nat) : List Nat :=
  ((nums.foldl (fun acc n => insertMark (n, markClass n) acc) []).map Prod.fst).reverse

/-- The text before the last base, the base, what follows it in reverse, and the class of its last mark. -/
structure Pending where
  before : List Nat
  base : Option Nat
  marks : List Nat
  lastClass : Nat

def composeStep (s : Pending) (n : Nat) : Pending :=
  let k := markClass n
  match s.base with
  | none => if k == 0 then { s with base := some n } else { s with before := n :: s.before }
  | some b =>
    let free := s.marks.isEmpty || (s.lastClass < k)
    match (if free then compose b n else none) with
    | some c => { s with base := some c }
    | none =>
      if k == 0 then ⟨s.marks ++ b :: s.before, some n, [], 0⟩
      else { s with marks := n :: s.marks, lastClass := k }

def recompose (nums : List Nat) : List Nat :=
  let s := nums.foldl composeStep ⟨[], none, [], 0⟩
  (s.marks ++ s.base.toList ++ s.before).reverse

def normalize (cs : List Char) : List Char :=
  if cs.all (·.toNat < 0x80) then cs
  else (recompose (reorder (cs.flatMap fun c => decompose c.toNat))).map Char.ofNat

end SourceAudit.Composed
