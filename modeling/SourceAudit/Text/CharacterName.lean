import SourceAudit.Text.Packed

/-! Names of characters, with their formal aliases. Ideographs, Hangul syllables and characters in a series are named by
rule. -/

namespace SourceAudit.CharacterName

def table : Thunk (List Packed.Entry) := .mk fun _ => Packed.entries 338931
  "|o!NM.T+Kwp?8%1FC:&c&1k6FVe5QnmflL~4*.od0rzvaD1(w=Bdy?cy:1UeC53hu)9QR>2v~l)3*6QyihEWr8dw,w?7ia8ffB1$z1Y@F8mNu4@@lY!hDpITR_uM~sC$mlwDXdFcwRG~4nu7x]0W~VSTmhs(mPVJSY=(uDarj<b7k,8FK|<SfIM,mn]H$4xIi_c.q]Z@Ix+8W%14pZa1Iux7r6:+Lc6+OB|yG,+Q1l=xUXFaqUT!|O:K,]&zkTKn8HkPl9eAa~C$i@dC?pq%czv;D$z5W[RW:M7+WI>I)$?&cTr[U!rNUR(NHh)g1nQJHjy)sBAQS<4dwK._o4Hq<=mD+vmCwt6.Dn.yMc[6;oIRd6_%UXGUZ76*jzgfM,JMHIm@fuFU[WeGYYAlb)WLo:&rKg?s0+P]Th)6JqjLYdE1U@|.CCvjcpt*er|b=5h%>0CYI>|dh83T>HuBXovhEE2rw<l:pCCa=5idPF1%hAXfNPQ6zK@y3e5ylJ)SWPH+pxf~6nA?micqw?ks]6!%uY8nWk:++HYKC87w.LCnpFYb)MZZUlT0:%p&%t6f*_;wIHdEdl;.NXe3+N~%08:CEFoxK):,B<1PRw[M8pLiZo6FWL%yrL4%d&Z7?^xbB6.oom)C_$3O$cqa&c9a[(k%@7,.6h<=ZNZdkL[JAKED1+vtPyIMrvzbdh=@%ao*4sq1MHHA]]_C@Q9E;CM[6g*cJaRyc3GDmkK$v5yh!$|!@RtgjNV)Xkos*Q@SyTP$nwauB$V?drmeLAi,LAWJ^9K_n^EMc;H?@!:5.S5LHa2pu<>_=rmftW?,4_QkzlG*omU|Z%OW>L+jWH=>&dl*4a*r8BG0sBJbjtvq]>&GI2w!jDv=V?.X+,*)x;&.w|.OJ.w+fPGMA.^mwPCW7qNmm8VAJ;@^O?ja1HBVq?ws1jVwK,Dl~owN=ycj3f2;aaw6+APUm,HQw]:+Gv(7p6PdvPU^91o5C!!FrW&DUJ2OnP)q
  6js=&V$+j<pra2zkQ9zTE7@f%<lvKQMwajyf_+T%3(UbbFfEo_J?+IMt|qyWi~X~_a]X<OgQd]AU);<L%s>)9lDhyKYRpl3<lt]>:S<z:7p@_K~sK.6EvtPx:iZFd_%O7c@M54Y,WR,KccmNb>%ZQANAo+3_q+@E%8umVqe~xinXdLcm0OPFG6,[T@2l+yLAb0<59&RAyl4THmj.84E::oI1x!lHfV^Sk<qYB7QQMO*bDW9SQojI0G$_?v@BPX*WKbs9aGsUNcJi.a&]V]CMZ]]<6tcyPrs@q5?~vVUj53+b@BEj,pLiW(na84ndoO%EeIm]OHU?.A]dzYG2bu~<2y<xJ()lEpHmvH>jI+^1Jv.x2mES,h0p+SD]Rv;8lAUn_l|YCG<TU8:G56+t><!aUKc$3B2cIacw,HHvHN)9<YT(]xb(395>CYS$IxUN&|A&dUMW65q?8gzhI0G^[VfN2tGsVGB5?eh~_,~Hp+r~F(C.J~)A>Xv?z<<1gpMIz>3RW0B6oxKpEU>3F8[;RI|6mlMiTT+&oyY_zIKuIq]6;[_=&KIK%dLl(AVFF+y4.$E(,$p]*sAFQpv%e,3O@P<w7mlQdS6fP+gHP5RwDE$FM;6iPr8BvA$wHMyZJvw.jd~[ZPQj$Rc;8i$n0y8;>9DhSNR+mwEa]&zD_]Q0mN7H13*X@m=h==E:NfK+6Y*4Y=@5ZqJfhArG].&bs%a__]qMPwP3)vj3&;r5m*S%MJA=C2vX9apXR|=$CpdXwpFDN:dDA,v$JsA.+%Q0oW+t:)rsoTCq$;UCQHV,.t:,*~Z+E&|Y<3J3&&rWQNYt>a=AlvT^NqY~Cia5^[Rk0:uV(MJ>3K|H3NS0Hm.3;0lFuOHK+&Koq:=8pnv_E3&b+94Rf[j3ltJ(V2Ptn$ECQA?%C?)RYyF1LB]E8S<u+d3+dgiIeRFVwC_OsFrKy7La67wqC=6V0[.0|6=;NUo+pf|:R1k4bJ6~][RS(eO1%fJ@a9G*
  33P2b$vppIhT=sI]vy~?_bw):N9$tA6>Tw4Or(;3SWT2~^D7ek?j>.6~SqWf;>N^iOXuep6T1Z0>oPC@1R&1a7n3CMK6Nkyb.OPlaCuBYvFyeiv(Icw8vBrf*,sXX9&&2;g@*yyn~mpPS3kf(sRr$Jz:JiWpx9kQjdAQ)+e6X6G+^jlm:Y+=^B9JI[0ZFG!?aBD^eg[QGMmr*&8;WX|I9WB;<_**w1%<1:I$ow$urZI)q&V<OQC[ymUkq7qi5*5Sc7]CzUr$vm38TTrF+];UTC@x*mog%Z&(G1kjCcHYfJT^hv&Bk7l[,XVr(XSc<@kBnRZe<y*eh(qI;Ff][<dz[))[J_:x__OVnO;%1jhyz&Ps=BAX$F=c~Y.AiUqF$Bwjygy@X+U_hbe?CHORxAAdLj*![iemAw@y<tUpYNFM%zBebKigc]1]S[,Hx9FY]OKHisDUiex;<BmOPZBO;uX~N1~?Z7^>g4>L~(!S3Lb*G>2cOsy.TENgV@eb,?Ah|znHnBc$DH%Ny))8;<P1?SW0QB0I,rKYoDZcM6uBQvCH12[+aPIEXlCPtEq45xTX>Y[,.sG]sV4wvK~4OicA$5WiuNnTUQxAoVIcNyU*n|%?j.%!x52w8RPchNMeDlD8F<9,kO[(HPEQO[(.r2.>o6zUkSlR<s9DCH5ooq:PUCfzwDuVukq.E;^7GUxp,G~(|WZzf89<Oy?*?o3$<$)^9[xB<G?,JPeu<xz3xO=iL~nXR[Q%G|nN?sh)h6vDk$_zKnf!@gyUC!rH&_[eq~bmL:>&.Klo;Lo>E8V~F[jJX1L^lcSj|(RLy_q]m)fAl9V1g,68_cZ@xhh4TOu?|!wzo:YsKl=gt62Uh=pMM30SjW!6xzzhmOzt;zSYQCHOW.gOxY;73@Dug~?xtflSCzHh>V7VHja*R>ORq.fZBjk<n&v~kA&EnZ[V:e]fn_17Kdb3vId*?8RDcJa:Fdpr!4UsqF]BJs?5m;>lC~9^r*13a~ar
  [Z[g?%OeVUwMe3C9G(cU_PxUApmSDhit*Ck$_fk5GCE74lvT;okUkpa,@@b)UyILYE?Pr!_>y%E]Swd*]qiTE.hyt;@4rd60Ev7B<RBvxf9zv$SW3.]cSIE9BQK45h:FuE]=)8v8YHY&6E+Q4s~0.2UP_UbyZQ5_?0(Y;|2&2Yz48O>dy5SMoVL?6dQR9Ab:BsG@N2xX3%9BNWQB;@fv6;e4RN*9mhK*G*@.^8GDm]6>uy4DjmPOdr]vi9XNv5,w<!tJnm=qJdrp~(4A+JZqxl]ze^T.&*;q*M_ucpLl&Wr=?VouKaEB|5zSi=weTz9rIq5e2&8vmO|<X>J0)l.FEL.bk]:)[u)GVM@][rsW^%pvu]8>v.0D?WYy?Xlm9$RH1N,f7_Wj>E$bC|Fo!H%)p!;z>1D]XUy:nmX^21kOaQR&bw9fHBZovjo1;~3?ec08(r5Os0a5kvBV06=heRz|DxBR@wk?XbAxB5%,yC]l]RZ&11m87.%%pZ1:zIESyFGG0&!*JWRTO*UtVLHx4eXv;]AP1.[NoHRQ^0PLgBYLEhI5(zYZ&05dHaN$v<@lB=_Ma2_(Dnsq)P[(k^IO?iGA~RwF7??~_8?W?FL0KmO8&kgWrf.Ff[mdTS~UF|hOt$7!FgFMIV)w%3;DIAr)6u|Fts=%bASMs09vpCW0P?ZY@eIIsV+=r.0qHtMptlkt|E2&KWO7gDI?*x~?_Z;vvo:?pMhfMQ<jZfi&;TR72s@=sng;K$@8M^S(mTZZ=$i:%Bi7~3>Pr_(XF3Dy,@Go28*<hst~P!tUeu>IZY?UJy3!6Oc]ztr;;l?;AsP(c~:XoB=;65KnkD.^5rdCvVQF!gz>Jwzz3nF3xumaQm.pr+s:;;W;mN!e:,GDU5%Kr@es0Xq_xbxTx_$Ic.?^.$p~4Px<2xTL<gm3N7L.>jCX1@w)jh6rtzcON[ni[vu[5D@3y6i|gcd)F5^ojV$.d54saN.3j3RK+ymP$Y9W21p@oO&E
  ~*@OWI8Oevn7Q+UKWXSZ^hm95pS34._(ShyJEMxQpd1Dh?B4LmjV3(&Ev~$D.diz.Uof[[fIYJ1m(=Jmi1F16D(a6vf$iHci(x)OYeoE4H[0cV)|AM<6KIgX+eJruRO((Ttm;5w+)=2u_05pz~?UyegbP_.cp]NFeRT222~MDx5%P0ko;b;dkMkSGFyenA10LFp5oWF9PR*D3QU|gWfx&hi_PPdl:DWV0SI9]v~<u+h6se&5@h@<*,swp6,bS+~8OWkIzh8<4Q0=!=wWd43jRXJLO*eOs9SYryI?(&)FA(5BtJDjj&;_%lgS:D]Als?2+mw<s>h0MD;Z!1DbYxEgusuZZ_9XWRbh]t7TfIyEM(>]<2=<8?LPgQ0?)t6ZrEj]urJ]l|4O1Ob[p0LPHc+p=D1$9j8n8C%plFE1XU,*@|gKW@L<fjvD?~Nq_tw!u;rB,2@V=3ZL:ge1@AWYo=Gk^K~3_IB,aI*H;:zQubD.J>tWH*b^F^r$=b8f^H^dnqk3fSKthnW3;:%?U4D%nFvnfmrb1Qhj|(ZFP>bd!M9$>tvPaQ^kaZKeE=^FNs~@Z9|wI$|f<*T9sBSkX(FDo@Zz.Gw=qg^M;r~T.9?&!|xl2jC68k6x:>C6dw.n[HG2~xC]LEP9f$XmUOwMH$ZuplUic1YV|!0bsA4]I_qR99BU1B)rv0Ew@H($sv%9J*1K41p]F@bYo%=j9X3lBn_j[ce^G2edsMO433bjG^HhzWo3GVyK<6c*6.HNZ?W2=g>4bPUp:7:BCBGr)8~b)D+w6Kgkxz@h@[s.GG6xt=>8KuKn[^9hP:XflJWc~%L2~HkH0l=fuB>Ao1ue1.EsIV]ywh7J,msMv;zS;+c@<Tnu)kbXa~jo~E,D~*wIri.oAL:pDKpgRkXM*1X)|O,Z@dzb)6jx1LT]wP.k=)!h4$:.uc&,eiO,(uUPdZsPN0Hdv@qCslsGPC&oW96N&(P3E5Og@QAi9EAm(|+(1PN8Z?I07+.K
  !yPH%PmG>OKVBV2O7?Z1Plc%IR^nV~_vMe?hSH)FnjhZng3rMta5snAf13Y%?;6vzXE:5>?CA+74M:Z7:_+Hx5w;_lcGdbKxkN:d;%+LZ[En]USo4Rl,%zHOhqklWpHC+A6eI|oN.yGO_vac(lc!qDa8C?Z8gg!Yh%Z4uh=1TO)jBn;^umgQ_DH+5iHjGEhYt+bBJ4DMTpI*knHEYSu>0P*+UO^Hv&)z91yzJvta65sH=?AK*$mq~=X!M;%w*+OU$g^e^~xGL&|N@]Ep2Of(;x:Ow:o~D&%_KXP_?48ArkB2IWj7A:tNKrW[=M4L<JUVe&c>JJiGql!$yq%oukG>tLY;.^ePqHr|fR+|!H[ipPW8~u_?6<~F(ET)BI(6!cN;y3F+pymlE3x1h.8L6*[?Dq]In6*drShuB]23X;]:9zi;a;j)BI~C=iv_w$j;DcXM90)?|y]Ejg_B8Mujz]GxdA;_AcQ9(4lx57LL~xfGm!BWpfoq1sQz!IxW)Rh@lN_(N$A<SXHwRjZb..o(b4~eQL@xT=*V?bRz].X>5Ns>JpFo=V@0.9(MgRO=.e7ZF.]bhIB?39]NzzKRT97mfr;6XZuiE:NbZX$_bxn@9Rz:SB)PX8FrJc,Dq11V_0CI6mm0j%Tfrt8&sw5bmU*,bs*M1.<7cy$)F7!W+sUsgD+;Qo,Vf_3!~?K~my.+OOU@[>6MDKNLYEQA>PzHRR+2Iq&J:Qr+%yP7SD4PIabfnQ!*FanHlJf1,&u[EB&cBbDUi1inY0B[lrccy]jwg=,IaRjut7oLMRf@[O1&g8_rtp6LE[SV?<M0=:5^,x,1><Rb<rK8<lz[.Nfp5j^6,EfRNekvirPaAa;Jbt?GT1;WoY81(.%Y?~)0yZ!ev69|=@CZ:80|A;9d?J$%xwbFIHbHO&@UVgCqCRFK;n88P:*ZasnWMcaQmInfC$rOpnz?dhr1S7hL0=?ip&HCxUFt;+b1vcQ!aFdF(cup7BgkP=ewB1r~
  y*gkv]sEe8[8ZkUvTW:slW2RA,^(>_=a;GT*oW6[deNB6HFgGe3luY~NH$<iU]1Mv&On*_k5=)H5ufZn,j[ptqHFSV,4HInv4^<*Gs8xfxTM5Ms.x*D,!uIr[8kf*tLE:Mml0]1(F7gtTYcPDDOFQo~LU1EbvC|N+A84)Y$B!PpHU<Q2YHsXU]9aY1n9=[?hx|+d=RwoTon&?C!e=CN7k.AIfG|KYqtEEe,e04cY|3Nn<9PZ(Rb74?_VZm2_KYc:,yaI](T+k?^IY^IX).Pw|TZn]OP358gvuN__+TgZ!Q(2;C0$nZm1RGZ+,^9aqkSrf2^KqM(]$z9x8*P&=^ecRdO@6~B[kz,QkIze~e~n6?I_8DE84y2Jl9UIGQ)@sOyPpSVvuC6_?.Q&><GP]O>okqB>$>0A!*zO;nGc42|$2Y3WF9zUKVQ0tWG~c$E@%zwCCA3dUcP9zX[nXPDp8=s^J@S~,H>tdIh)V$,aWhkmiDXE(p+UIr^85GzH1VFU+OejnFU4%VtTVtWhqq)PP)w4!;[53),[R8ko|?7(u2CQE?$_p8e5L>Jn[!*7,2Y(cNukSWbSUW71mqmSQTd?xi6A%*?cAs|pD(6ZcpSqY+HT[lQUvt12F4YNY33KI7~.W&&yD!)Dvpyc_N!8U$fNBz+;6Zq56@%$cuBWLzF&DmvWB<[j3sGPaK^Ks^|p6K?G)%Mk%NmRy:(aZjzqOJG3)+&V75Oh^YDsa^c]0!kvXV!b[~5aO_gntG1Xg$ZOHgf:@.M3T_4+,CYI|ja@>tw)O5NQ^W^ag==+%^0c.tn1N$<8:i]rcS[OQJjAjm5|^7Tq_UB219B;,GW9|JH7D~M)kU?ZqATDbQ*wUKH1t!HK,.||6(;T+N4]v>v~%8u%b]*m8xLy>1|HQ5*2DZt=UHi*;6^!t=9g6ROoSxr?qV2>+3bZO@br&vtVWWFrAq&:w^bJk>=UcdcuqTJ+gV56*2]|ETEJ6<Sk6^4$FxL.GQxJ7I97
  [8Cfgy1DxOK?fUNypvw$kf!9)&kmjEKgzlrT:?_1^P%=u~Rvwg)w],5HG%079)i>4O]+z9IzdF9w1ZZ)WhKXY9BlC=:B|RO(,,AEM9?XJtGnmy0G0*0]&ym~IR8s2I8h>^^@4oPF[6V1pW:r8LhERwz<^&D:?FJI):qoTa2_5tXo|kwf.6*fosw=N~oGbh_M~wrqhG&O])?HqT~BLqPODi;kza8A??ga!](w7d.3|@wk2GZ0XKGy,!;f)*7T3KYjdQe&QS)<jd?8ZTAX|nKCr(v.XPy]spiSE|pOvok7uY0BrF7?dcv2~320kcJTV5pTYK5B!~7dl+ZjsN,EyOWG4VWBH<yAdJPm3Rwquk4Xq:!n.V~oh|42Q;::zH>KbQ<sjlDwsm?Ql92pA<A$XV(DY&@@%m:!lCl(KvmyVrQniO,RvhqCAsAVklyCfuYbI$Jw;MfA]gadkX_=EmQdIi;1JdfCNdzSKNIxbGk*in?8NJaX>@!_QprLZ9~+KNSCnM6a!JXf);ktqQJHVQ;:|E=BS@@C9pad)Ve!7moUW*KmIc+w8f3O*^7g8v!&AUi+isN;IbBn:9th!;.RaW!5MM7B5U39d2,u(brHHvfC?^;JYu;E8wPDR=It(Hvxl:n]$X;I&ClQOLGj>9?Af;e5;~b*O(.Md,FwwC6uv~Gw?U;pqyPS~m8clfS.JJ_L0(6%&HjWj1b9KRT;enQdCT%vDin+Ak=eE4o!ihkV(%^N?~BBVKIkv05xjLQXU_$uy+SHGs;8PMC@pQLpcqLxAS5yo5UKwRi,1k=5:X.GaesdB?kxdZV~J^h$Ut2IL$j43%8@nzsL~B:8TQ1Cj*&+HTfDwKr4wc<z(|<DQJd&$IepzhX0aZ[mAJ?[Mb45ob_jFLh|k[0H(,pP4SdX_(7Ydx!5vCn?Q=xj.rj+TYUka9vq9F^4|b;Ts0%87FjO1f8$WTBjQ@2Kj,_n4L&2KQhYGwvd8VEF8JOmd<_J?eN0p+|r8^@t
  b<i620s<<~8zY6(D.TwFI(QCZ%L2YojLrC16u!9&qqCf<q?3OkNX^|5C0[REE][Tq~Ma3K:&aN,Q4IfLU;&tHbB(v38w9a+Ve@h:>LN.g<j+Q_mLazBsxw7pv|!&|sl,bbuIH^V?+=l~u+Mr,a^$u;M)N8[=nV[Jbv)s.;Sf>aVk!4@E,=qs@~bWVFcYx|E[N.&@DC^ZnzPdTuG1VYQAnsj~o6GWL!@TW7[B&$jh+O$lSoVfHf*3Jm3eAFkw7R9EKGeT>UBS2JHKVz9ydKnO@EHfD]y%=Vv;S=.B9OtDixNYx1l[]!kK^^(74;@*1ddTz=;|?qslwxjlH[BE8]9=G(*@TqoA2w$mh3X^Efd:m+eMIeEg>9MWg6IpWq@x&PlX_pstQ=3*&IYDrLiU3=Me0F~S3=M>L6hn^dGy~5p^(>>LPv9z<*5|M_F<9Xd?&y;6PCJmfBN<ext:s+76?$_4jw8RS=)MU<oXVZQT|HR[Ic2io._F1WDEozVL8cnztn8=J~0xpzvc0l^AWUo7.Cqbw$zZeE1mStoto21TYUKG1YN6SoSPK8fZrcZY^dZSo=leXRF68=bLzM8.RP5@onqGo>+2<R~@[rD>~LI9[,*PoTjp9f%bLh9L2ryPQ,Y4uWkvTbBaCA2+6nf=vTk1I,dhMUmt%^pjK5;K_2D]6,K5kXAodpio>*BHx>TN?ds>:H28Qn=SoV=WZ$<G!+Xfz<.Em*u^xX:P$:lvpbKJ]m0^Yl@_N@E:wPAQ.82|=uZF3i6jyzz.EifMy_pE|$C69!qzE,LrHanC[D(zD_@aWiy(EGsc>|p7(p;tOG&uB@)>52t@X1g~@[qUknIR<=L0cA?Xnl_U7(hZd)@]j1<1EvQjg1z<,^8L&Y)Ni&eY=vK4J4;UKX+9DPZY(2Jw%RW.%8<YF1;c8kF5*3[DCr,1C6rkl+0D8YrwjCg1G(09Xp=>d53dJhJ4Z9%a_Qml(6ZDIeXX^;=G=npa.[I%yHmx:1Te
  CJK&W!Xwi:|(xGNif3^s8mR$4W)E7K.ZL=^cIvqSi,pqn*,Pe?dB7y;XmXd82)VS4$n~;~Q8x,<*oQLV4nzEBzI3&eRK]q,y+):;wauucRcvX_~eH?mdZ_%a|T+sg?N1aCOov4QDKtjG*Cgt,=ECOqi^(I?PF&;XXTtK[o8>w&hmh|l%.nCyv4^jwX9hcKhX=6^^x)MF@<teSp=5?5*bZ[|,g2g]Emi~+ZLu4(ILD|OlX%iCrx*Y0f2psj@lovFXYrn9eHg&vaO9Ir|4pVmzgp+iiEr+8=h+|;=A(Wd^+i=pw]WSI^9+hBcPn9FzyD>dIp;J:0VVm?V1)!s)Fgq)|vE(,JZAat[qUy37b2uL|IBBsByfr5&]X*ln_|GL+nFD_KTpqD])DeUXY~VNQz(cndU2Vo?85:q,9(4s9)K$&k<l,BBiL~dP0jkg?XF%1e5[RdBtBXhA&(0aPR5Sp1qsB<m2Vy9:AJ*[P4|j[&0(nRPcfu16fLC0DV;O_l[+Z82XiNduz.KEjl+H.]|GhvvV!TNzwEBzyaV)jr70&|y]1S>t[S7@hj1!I!.eZA)=t)s8Ge^U6!7E&t7u|D~(+ksWR+g$g&Cg.[ju~.mT&*zcq3;N2e;9wb&6bwf5ADUpF3NXoevL(fgXjNT~DzFes2+r5cn3^de&r5mHr&J~if_6UIEkz%[;v[ZbpaBfrwZD3]7UR@f;,Z5tL@]pH=e3E&X,4i_SaEccU+NawyepH4d&,(IEQ&H($^Y!2NU77!SpJ:,hGAm%QnUq88^yw:h]7&;pJiJf<hsr^N96Lw&oJ3&A477a,fnSb0cO8HegLlVC8Y+mci^c)HIs^p>9C|TV^dkb0B@:uVDd$D>@*2&eKEu8bz4tX:d+|]o!N(~Rn[kE])M!^DMve4c1>&QZ|&M[vw:d]0y:0Bo5SBO)_4XHy.U.n%un!^lgV.6YXo[m5so>yuGL5nMyBKLpWV6R+Nm1@*4*OuqP=^Jq$vuguwyTNqD0
  sC;=hTf=RgOR9GS(|8XEkq~@dZAWkZ<Wh,vcna)He=T&n:Rl+onkB9e|rEiL~6?JX0|wlA@R$2CnoPKH>o@JM:(!8.zVgt0H:GEz:G),Mh2~klSSYy6?HXagI;Q!ZC;^M4;k3GOp7J;CHCdG=a%qDhVCn,,aQ&n*<gokhNSVm|O[>.0]Epb,r,9!Vvy,lW1Oe8Qg=MUzewo:kwe%M45O]JpQmO%&Y,%t2~z23d6x%V;nRqCy<Ru.%4a3_]0iImx]5MUtFVW!G$,=[S%J|[C|BJ6rqFCPaMDbGqUJkKpTi](AX(C_UO_d)8vact0=z1iz;@u0K,@_C5JA5N61zeoP;>~wC[<!F!d5Ln@*:E.^w+sKCL;aS7ZGp)[9?5yHRReHeMcg^U2vrZ$Bl6.eW*0~qA2*i88@p84Bj8Kh6NB9EF_@2_6U6W&%^<X|OEsHShRa5jN~+WDc_Aen1[&EujpLFx+643~?D.DWL9d.Y4>WeL*L0>@E:~~TBzk=)bsko~tM1^yR+UWQy0x]8pipPM*wi|m1HKXuWa5sZdfvd9[HQJgLF?|OsY7LQNBvp5LWeM+$HIW,Tk_S[ixO9O&v~%vdYN+G*jNQpZ&YdkpN*Rf*e+A]q^lB6>?jlDVzQG9zduQyk,K%jh+G@r>HqCi>b7rtL3B?d.VeL:tpl%4WwsQ,;nYsNmYCKNQ*!W<wp+!)lZRX.?AX%*sLg$_aIfVMU[|KKAd.fT1sO9A,OZYOfTZj?3iTIBeNw:8!x=PBdYIIHyno5A_+yyS1h%_i*(cexJIL3P:<fS,jzNdkXcuc=6PLbi!=t9r5dR%YWDnJSDdOROTgF&90)ZW+d|e.6_QNe~J9lr07>S[f8~+Kgx)B?^!oiOy*=H>cP:+c_Uchw[&thVNO3Q6CK|50c;~t]d%nBTUH;uDkI8Kb2MGE!j)~t^GZzB<_Dkz[R!XG1f&yP[U7ZA,VXJCjGc%OU~;c2pJjBV$Z1M,CBbV,Tb;K=^jX.7Bp
  Xt9pS9I?$*TbT^r&rpKO;O?@MHFt5td,l^a8!o1zXB+.E]R=D71HXC7H6]d7l1:^8?~>8THI,q7Sfk<EfEDiurX~lJPRR85>$vJs=x)f>36CZx5:STT$Q.;zZI~@,3nf%0d4?JSyD:PK+so4BZ(LmCR9oN~$a<AvNsPaLMlo~s5Hb5k7k0=LnH?5n9Kz<x3A=FC$&ypkX>EfM<$g|9%]I^=_*Q87l.jss2<?,P4zO<iSv&r<EAc]X$D~j8kdHZyjJep(EMzS~bWtuV@lVVG_H[$n$S(.0uaoHCkbk[9bt;a[6=9Y,Dj5ya%*rSytd[I5Jx;Q(on;Ro|m1|i&bM0QP>YXRb3xdWz.>5ug44%<7&~;lHs^?^*lMHzl,[jxP<mqnyC!6^7r1Y$qX3l79qt;;gFb;Vl)j>_<sX@ocE&Kfu1x[OMSSl~c&RCbLczw=H[;54_b~^br1_5OU>0XCaJ?n40)XFM,vfpHH6EvIs$|Sy*B=$5B>x$+uW^tI6=U3U5Y$=UcY_2Ra41@JTRUZn:b&U_ra_2@<!_PqB6LTwk|y7L~:=9~~LA5hV;*acXfoRhsavC15edY<+tjQrMR3Q>vI0?8uEPqGNs)YW(<e2yrhd5Hvg&eOi;(.iiN:;yM3@Rrops.Ghc&:^RTfHl2oG@Dk>tChbK~Cjwm[*fnrxqwthfp*%_~.a94pJu0o4y4KZyyb!_ZQE6NjB!HjQ6]rW>,>9n55^gc4=*|b^N.sO[ulI0a*xwE+,wMVB%q7_bdv_+0[wM_tK3M7cKZ@tF4&zpIWBFFl~R@pJ$E<o39t!KW=S_P6vu^T0?v_YQ*ThST.M_:dj_a3I1DQ)80v,?:keft04~?>p!?KHL:qOzh|:s!f8:z2zDrWoEyoLJfZrmeoi@q%r|K5F.e?Q2>Es2j*h.X&uUL7wl6dxae~DK!H0Lfa6ElB>!V|T~D1tbsL_CETJ&=>b+iyz.;bGPQE0i._Nn~jW>zPKBD|fEveFD9r^y=
  7dW3sjz%6K4Rbaa?X71:@||avkW;7*6)NI8%1m.Pb[2[4HmN.eB^je!3>IUy6&m6kN<zQH<BGdUejCYWy+z>r2lb,K~xvnwD]^^=4F$cKcP:c))e?_mT8frNP?dZZWrFc4LGiPnG??aX%Y4zoF=i@%s:b^Lvn<+Mg5(td=SCf1vQ6YB<*uWzyr08MH[lURw6[pCBv;1u^OpLNv>!<rKVdaZBoRS>GkV1lIfyH_Y)K=t7~sC~B~usZIc9fxv!]4Y+r;?_6RzQ(|6*:wBs0yd.G_VX[9u6JEkWHs>p5IjzkZX|Tn]LNH8ZDkwspZDYasu[llYBy*9*;v@M|vOQ]nM~wPuXdGy^VkDR*jTy*zixqPS[an)L30O_sM=fQcG&pFWk)I0zIV:WcY18VqNvHeWAC7|MBgI1jt3xzOO>WW&iEp$.Os?mYyCi=NMg7p7&Y~!|,9U_t)3TU5k19Y~?t|Pk]ClhB8cuGs9X)WSVgIId6Ohx2M$JEzx=C|ZS3qix;e_!6MI,dCP9po!1:MF[<L3uK,CJ(n^@n~Mj4yWY_I%=cCsbFANUe%g!<!;OTb:h9@cvBx%048jAs@Z$!JC[uE^qwMZlc,eQ;>2rh@<gZTGG&RRZJ0()J]mu2_(H9)kN!z_>DGL>^04.YY_&)Pd^k$RBRqjMafD5]nnWw1&+&gMX6olcNA;_G3.kY^jH,av~F<prbJ0s%:%eIBYw0OY?+Wh^)pW6Y26<Q90r.v>2m.=OSgLe(Csu46(]jXd$bLtsqJ!^0Z:Yv!N2Lxe_k&di;f>RDh|JQV:b+cgrrp*iLOnn:z[3Wq;Kcdpm&5Aa$6RQ6hZDgUxT8)ng(Hbp3&bR4*U_ExfFe[[H4?JN60@McH9*faGuN|@vaA[Pc(PD0K42+tmjm!e^txpHTE]kUMF6):21otPI)W.6:+(W0vaf(8p6IGq_CGb!]@$2Ap&8XTDq*,D,2:|.ao0la.tQx@*BT*mQjx,KOlau^)F6H):Qr!bA
  ~Obwh]5O(gb&y(MGDX6t>;*r7<gXYNIdWaLCNSj1APvZa^Y8Z]K3S8>UFa$?!%pz:Ezu:kKG7Rxgy<8Z!C$.BUTXOC&2hoXjlad2iCySYg9WT:Hv8e|S8d$+w|,wk:0xm0e,gbz$VR2D)l&,@rmHETSIhh9*QeCU3e<2B1g@<Wxh=M+3;mi%p4KdazPKw&1RRDje!~3tWFYN!>;!S[:~N,>jk^;a|4<$pOv(I;C,84bqdjkFH>TS%|36I:d?Oj0S3@62MSF]hQY5s1fzHTI8:k0>?VX_R8Uz+D$^I$gD*(H%^XmT:_?LIE05c)=ME%wyibojJSeS%Sc0wl6QD:kADzgyew=Z4Iv)6^Kj@lS7rle;ehnB[P6+M.)xEGxvv_$r=xV%4(6*06a)?Lm6Htl>b$!Y)iX[oi%e5k=mz1C|zswR[0+|k):RC^wZ]H?lHq&8C,nV?x*p,:t$]q|f|G%<9yU7JDgDW_lqNu,,;IoPGI6W=IIeb6Xq+|sE6dVVnv(K:lwJn2^1NdJ($AA|W7I&PT=R<I9,g>OAS;w+xZ)1J=Xx0B|mo>CsU2>dVXBJF*M>aBCu~*u8qdfj8u].Gvof*ebL,@;$geGuV)*6iAHH.dDy=_7YQ@4~WKk)7U(BzPc$5POEKb.33Vk2cy<L|>JDoh~Joh:@[,d5D+[0&3beFf^Qh%pu%1GmLqNAtk[eP]vRH6%_nX63y7m4Jp]fT*DG4Dt9,)edZ+IG0b*_Zl*98:ijb55V=2*qKel4|ZiIP*_KKf+i?fxDpPwLg%eqWd6)8)!XRhyXpr+.Ynu*u^<AoZloT<p)ugP~hUgdO9UDH[?pq)f3HYBAQkoeHVDKY5o>WMQW=)@kY;1,WD8X>sv!w[^<YPomrj|TN4QQ,v^X(pTCT<R+1iSK9CD60x_B<vrDh<!Ppdqcn|.wT;YZf;uHRZwR~mxQz52:y;Xq[N1eq3OhFC?=zP3HpB^I@^8ERU[&pW,%jV,[%eXX=C$~JQa[
  hL!xiwH^<Tg3mNGd2G(HD9LiK:1F~]K@cd&XA$e,*edF;l&Ec,y_p$KMBt[IbW^)EW,2EgjJ_P5d~kPYO~gt,(b*DG.2M=MX~6SMWq0TCUH61g>C=zzc$pex)SJ:+!>diN2~BG=@.]XO[etC^<Cr<6fQYtcy[RR92ml5%k6e3nMr,fi6jsaTha4~XZ_&W$R*]y!msA^,T+X)o8K&uYfk*6bJIpE1bvK%F?0>0rhO@G|F1ls4q)CQg8u6FilL.Gg!:iSi=_;BxmF.%YQGV3|>hD$7,%D.&&~jo)<W;Z=~@<OAlGf%$GsM!u=(5A[n(2lR$EHXpNlpu3m(Jy_=<:d@,G~>0XaaypSygJB>|qD;xr2!%T[@P%O;Q1C&=+_L[Lwp]wa.mFISI)2$jKfj)ZK==)axIQs1*xokJhG:JwjuPy?Rn.$Q3p=PT%e&ubJljfvhyT.7,..YyBKC]!!wgQ?=Wv,<^@9a7A>R>s)*oXeuG4>fC_vJ_xz*)]bzSa7JV7*Ko+;rkU8G)+k?H0n4FAz*Vm<VkM:=7^uW(wF!66l~n:QWGz;nN*IaR=)WPvNe*@E2x@3tg$&LxpporPxn0M0*Hs>2Ismn+QpWHzUN:|8Klg0YaR|m5~%P6MuXPqb*Tx(tixZK77BUh9.b<_M+uPbYtRigf6c:6>5C]v?GBwz1:Z~%X2Cz|qvP7~snH2.PNh%&;cu5$!]7%feiR*X?;^~Dp38ZF~6K[q]|eyJNjPe_Z9DT00Kk&(O;>?&&@qRAk[m(9MVI%R8h1Ut?M|^rXFddcg0%O|S*HUID*Xs!]4@kq%7Y=Scf+tGE.N|(T[smT!6m&Iui|;YM1DJRJFPA]VQb=X8SXJ9Plj%mYctdv7Q4,$1;6[jxgz<UnYfOuwijEcRN^T:>&|LVPAVbCm:Ak5,4EUympRB=_o>*IW~l7vCc|I0)9R@56DCrdF.0NK8|7YC?&dt$B3M$5H:ugN.2zMt&ZJQrjP%N]Ao@sn^rFP_i
  yTAfZWu<,t3v)$a3n$Oca*G>pEI$]pT!W3G^085G6k|99SNFMIvnY]VbP^T_Nb*gDJfJq!c(XZ<;swU.^oqQ*?;j]IpPk*p$zYF:z4A?fo~KuMwYRmw.RZ~,3xR(r+rhUXPARUAuFk9WL=kWxeWvi2)bY:o3q,)uH,z_@oWFV49=otz2LBvNrsqxWqT!Tl$wy:;gQ(Z3]QUpxP&ki%3[(|5HxMB?ji+2PY=d.G&AGA<ll_@wn!uwMpSUZlCWdb1<,m5%lXcktmd[i7v?>9~QIc@ruze<yhC8OaP19hIa@eKbi];0Cy,MKZvw)zHIno_Xj~INDTqjWc7_GPfezuyN~lk:=$No)BgUx2K9e??tmLdD0C4<Mf&4hcvegRV0e|2a&weSWUZ0xIWX$M>(o*djFzdcTr|(?Fv0OkYe*]xguh37iN,canPbyk;V[eNQMDlA??.eYKGq7,)UO]K6P>l?)Wz,f@&sOrPKaFr)Tgp_G2NoIUS^>Hv]^e&,pF|2%<uCR!R>oS0Y4UYD1?~fw2[>kP@f9EcjklNzD2d+e)U6wIyq*B*ge@d=ou!wkX,g2V;eA.u>2vtqJLrPzoz<?NRi2emNgfIre_3VWsjdN)Rz>oDkOQ,x8p@v^@5._hm>J)f*k0Gui$3S[19~mi6duo6I2)@sN4eDpEp>%mq$Aw0e2!6<s+EtTKNg7z40kQd1kdc6Zz+gYcC)u$NiaAg1z!ToMO?PLiNjSXGVNTmYuuqj7hZ3tnTT4D4Sl=A,XO46UZnwz2Lg1~?oQH,*MN8.*g0*6)7h$Dk8quAY?|8]2:xpL%n,FXbJA3hq&)Ki5p+PK$c4OmA>ndiJ)Jz0r$NE_9YIBLAcXRPkg%O,0qP]wzm07^emG8RTaE)hyS!>br8YUu];<F.V;tA!&hAL*7BeJhM?qL+hu,(tO9&ZTrt~^p]!3iY?,?+TqO~Eipvkjqgsm^st<Q)>&A*,Qc??8dmVPjQUxA;]NJc0!:z&omQE6&ZY
  8P_SaB[1)gu:;p(,;=2]uJfdqvFC93R(xAxuU4IA=,+G8g(Cyq)|wWGpYMqUXrz93+7t8r_wMbln9JH3Mw:E1O$<!GD2WJ=oVc7=NHah@ECwFhnK[B7<*S!4pr;N)Q2ybOO(D(FY5YeM5=jvFhthEPnN^91uav5=(f1D_+CN^Rrf9r!Z.&IBxilL1&$8phNRj4@W%j<LfZlbN>U~j@s%+&dH1zzgO=oJ1.<,kE.k$E:x8dEt%c8%Y&[(U:Kl]foZHqsR>~DTfif+3mn_24Eb&qW@pF2,l$er8P]Lqgo7RYas<T7S9qTvakn(OTXWGA&v?0A+P2pXSK8exVpbK=u7$~X1N8aZkXxRfnW;|m,jk?9C]a%@a%~w$XSqOyu&$u=V01R=9(]D5M9)C*Op]jOdN*;K:~UD<$B15Jf9D0xBc>7|U_>ctkvXt2Q7g4Yk7y7v(!!.]JnF*V:Z&EKJjogXx+2a]^rDV&00:AVFpJ>NK1*0SD6el^B]b]QjKlPB.oZf~*26LduwZ2)r1*+|ee31M;NgJg]UY_p[*QH,)~%6*tn@GP2~J|2gE(t^p@wQ=bmmY|C.|Jhrv10>b;;CtQ:f*qK<vAHRh$(P<J+].a3+HuGO,FaR|1ypxz.NiKey~+IVpWl+W[b[n6k5y1.wS?<%acw<dZ_KrjJ>msyhHNkM^BU^rKZa:&9(Ekoq1j37D4TNve?qP&@9tN;WRA?+76(j7Kg_jsP%i?l~Ui+O.<g_O0@o0r&$d3Jr;Dl!z)iNb+bCbz6o&VocjexmX;G=k:<AmYl?DEdr!x4?spfPz8YBpu.,JQkL5Y7Kf8X?p^3SoLQ*GmHmpn35ZMM>ia9oPoV]_sKF_6X^thVI<!Y6ZuA34.ZDa2Kb,~aD(GRU,$mEMxL$72BtIm&li~0>gjp;_,_C~Y~G,j<*Z1<CC[.p=8$y@<u,f.J+U9:Lsgk3rL;$!oVl5$l7x6@_A<xBz?QR$^Cb0NWH3bzbz0>$4Fxp*GH,
  )uyEgsANO?HOyx+*D1b<jLDIf_k74)QfTfv;u1ATrtDD&@><.3U=[40(?$+7GF|9tV<*0yBi,:AdcUmQToKI,+J!.3+=0@Us:q[<+J60~y)n&t77iSEEMbo8Vn[gTt.*:f.:tP(pY:^f1u&eq[0d]CR^~]fV$Qvn<.XPKY@&@t2cL7$W|fb,HiCJ8sipb$fHy[0JAt0Sf_kboL&@dsOCFk9deC7Ld0z&OmaxsI%aNM+TPq?3c;,cP0DBx8g[2iwmIckz&^+y4G7HzB4iCzzfT+Lug[!VJROU~FA!n>.F!0N>uKN,f[bSb4B@|4N@se:9EF*HS?;*=oRR=&y]n1B!hXu;1cLQ;xIUBG&vzDg<c7<0O%:>2w[1=Jvl*)e0>l&0dCYPMU+iWP!vT;OWzbSiz?&Lffxs28R[^qHqcx0VXy<*uNq9qNe[amKz8?!>+_eZtw[%^_ope9f!_]HPO,N+nJ$,P9xN:&rqBrI6W$[FIG3EP4$v:|gyx2O(Tabw%Pj2p)E)m,H;&:j6q&&dGYel$,XHIxenBG8T9Wj*FTZTi)*Sa2ByvYrTitnD?7wBy2P||horqqj:8I;!kECR)khrI6CR0M=,vDk6sp(O]>4,q8sx@S02L?R>?[msT6^~UxxHF<WYbaH1eTdU9p%KRrkpxhj.!L^dAy~|NVqf04[yB.[KhQh~hSn+PNr97izdW4WN1HFM[DO<(88gaw6)5WPr[vax0O(r5>Xg<7Zg9FFS~Bh&th&y8>.JiJlFR^~vB|!mT1@h7X_+N>Zz?>j3klA%e1lX_%w[6KI,aNJBDcAQzVaKY.K?<R*Gw4nk85rp_=yJzr@<uQ@^aR?wI*yn7^MzWxTkAxD~;oWwb;Gj([8mCh(Y8NAi[nZ(AqEWSPp!HllaiP^SPuuM&xh;Q>yWZ!*!=.,bo5XPJc,oJp3f=71fmz9<B5;Mv;r_:ic:+[=w<G+bm<_(onoFy>)wYfAhW~v8qPG42!9X+KX,l?DpeghJ
  a)BsZ(b]+~Pg)vqG?1_TVwHvpZcyzN27VM>(By0J!sdW&]9tnWdw;RA65YuUNBr3Ot=*TLb)I9bSR|6X508P6cj=02<btz)>MF+=O),G74oPLMs9FFZF^w.~<0%ZP&@=oQKtAwml<b*HNAE!&O00cixe[O3j1tYtS4mnx90)NfQ5w%naI3N:Pc|3(s2Ka5,~M<1h1yt?jl@CG][zVDYG;(u0OP5<0L^WH+$,H6@<=YpOv6)p9diOJC<EkltP$Z>oHB%wIZya&hfW&v+uY@Q0AY|3~g(Sn62*<~Af(+i7W(s>&kN5Eq[A~hT1P!5R]1MC^UlUW4_eanCORp0=YMrmVqnJ_SFKR0YoZ&%vA8OAuCQ_jf>1E2I(<p(;<7q7r[0N<mi@DoJX!KUl,Ib$Wu0y[,gdKJLsTR8aZJM0iitou?WB9Z0hLqB%QsQJ4iK0cB$VBNq^nbp?5!77WGPcXR<wKLWuJL$k6?A~H.DAP1<lUB|q7&,;[~s&qd!w[NpR1K%B=+^._DQ)|L?%[$gYF=[2Kq^>Y58VQvw7bn4z@Rl@IYfa!i<38Fj&,]Ki<|pOxUDznitAy*SPhCb2c?IK@!D_OVY3V><IMlydB:OeCL=m9S:E;8Qd~HTl$wDnBt[kmjy0WQWCdB9|Wnl6z6u78:d,o*k>l$qh3.!a<VR&2b%=vfYA9piH9sdzS;j4>@MeHFD4r^ia|g5*B0z_22cmhE^X]sIqaaFS5~O2):8Vvi59~GP+!f,S=q=5w<uT&&<DlG%AYL~>$wXr@SV.X?.W^2mGK>:]H.SPZIOG.Eyre4U>.7I)eKa0xx^0E<gmX+NbDSCuiF;@W$P;PxtxAx&K%aPQ<2VAzVdR*7O;w&onfZkfDIWR67ds&QYPXzHk*r,*D<HP(=Pr]I4~$a>C@)+$yw1MF1[DrSI9agSr!]A(xT|_aA~:**j9pOhyxo>[3[S,+|N=O*(kuP^kqZ.~Nq,EGVu&w(Q$X@B0vtb*|^U3|(j8
  hA+U7tdbj>jgBJbz@a|y|xD^u,*e!wblt:eOlq)v=$2hkY^tfLg:2CVNq;97ij%$i1:pqHr=ucT0RyabvH)vr6<~RAt+gcJqS6ULndO03WOlOtlF*w0QPv.bW$G~x.Ve<JR315Mo&QMx~,>[v>y)8bHi+.0>P6ShJyQeeMv)y1)2V$O_.[|@vdC]J]M0$mOvj,F22%Pxn0I0d0A;z?;U2!?Qik!CT:4k@n:i$BRr]_t~EP&:E^Dz$bB(b6H&kSh!$cRK*Mu(l5J=GgM,z7eL~~BDf[Y5P)@TIp2G@6;~@VGPBQB&)VJ7!CDw>0KZMAtgj<sDt2;Z=QslI7vZQdITi*l:4*3W8!UXy>QN~;x&:50sYiF,^g45,VP8ElR4dilMSKby,+A[C3GQ5=+e:IUYi^xm5,0f]HR+z(W0t+xKAvDCLkG=>xHUwF%K<19?AHNn*qCVr:QQ~C+usDQ$MOTG2?FPhUy^:QyH0sVF|[Nj^m>l9@NU*sl$,eAR**sE$xn4g=FnRJSYJ68?819U.yvJ>6.A4?<Wyu|qBw)ZeL9$d<dNIMBW_~N>irLO;bqR7c_3Mh^kK=>C^3wC*NH:c(qf2@j+9V.qOZR,wam.Dp$cmz)|_vZ(UKLMnt33Zlx>cI<sO7V,E)~Josy=Oj4$0Ef[V8|PsJg(620;_mEH@?z)*,t|]fI83v6oA7$~6Q@Qr%DzbS%4AJh,0KI[Jtk6xeA<^54F<WC^Mvks^;Jyynp.0xP(8<SlcE5uhl(v0WMn|,iW[Qe7QHyaEmx.@=SeMw.c>[+9@:4oIRY^0Xlkz[PN.tWOcK|Ww3+*1oiJrfMnN4kaEnO=v^VFb?y&c1n5oe^[4==P8(erO;Bwa?SrJhN5;cC]_wCN]Evg+agf6mHo&KqO.ZDD2m;f.6iS0:qV4&9LN>PG3(O$iI*cos5k_Nu?=E>iGtY^kYnM^b7PY:&F~%VJa02Y,fq^rgR2Yf8QswB[8>|hPG|p<4+5YuqWZ&cB
  gg]eJ5zq317,CGeYlQXK%*:fjwnNN0Ti1v&1,&l8dnDzRYt?mNLo>0=Bi&Zv9N]GbDeN;<esm>$st;oSUMyViU@$m|H(,Iv7DGeCoL1+M?,Rq>iFATS14F:$Q7)FOC^gV@92p0)V4r!7fU@I%0_Y*9LS@<.nAc,d8_qg&%!Y*FSFHzW+pmkI(b9SeO]Yo2):fWshG01(DF4=unmRZb>NNgtevE<R??Y9Vk0i4Yd?5XY~5)_fgxa?Vt%+*nI]9*V&NRHKJU7e0IEJ0EITEowxkW>eZ=utZubtM31a%x%Uh*8>0eDN)mb33_6*Uobl?IvpCV!XWrK8*~(uDRoAqFa;E,+.sd?>5aB|=FJ|l4ZE2xV&5p8UJ+gfgXZeY*Ik:lYQE_%IbZ+PMok~9aa|(8qTv3;zWW$fig3d=e<6[q1.gOr.<:a(U+niAA%HX!C]8&5Du=Bb0W!v^I&<=Nw^ft*8@yc9k>f95]BfTsM8eKyy4=KQc6pZ<87_$3(<wO;,~)zfP2mCB:6Dy7fh(iCYF~v&]M;$EYJ~2s_yNPA[eKwPMEdglc<GWs2&:R[78r$j=hCNq?GS77D^0>AQijoO5~n[Do(M_[MyQfyGc?nBkr&o[D2Vu!QTkR4|;~Ui6pCPq1Yrt&Zlh._lD3<o%RR$0)se_pftp(y^YRM>eL4pDY.7[ceSM?8F&hEH^TC+!>^@C=.PZoZa?5w|qJ:3i.tDQMAzB]_$B75iHH;cR,lQdZuSzbu=13Aab9e+JydLKzwf^e<<_:.RG&9<W.+jIC,K*O[fR(0?1tI]+yw~|Gt3s+n&7U1XuR+7g)wo<WfLuDZ??<^Y=ZEvHHpSX9r,Uzo|mDDLaH2e]K&UW;Mv_K)U<G;1>KVuM1fg_oN_|0.4t|L@MXhMP&1xTF,_[:Zf+u33j(Joafk^,T*j9ubqcu4Z^DP^Uh6DQw&=mSqJnjPfLIp.PkcMWi_Q%qCA>=gC=+e:e&t7p&]6S_xBal!>a8y75&),
  WrntY|5)t?6n??fkr_22,qcuNM,oGWb3@V<cqgi[>hY78Ln7V^S]Nwb.,Jg!~+u]JlA0Z6GG5Nm$^SvlSF<y,It?K]gg187ht*2OQh]vj*E9=ZH4x&EbSeLOW5m^iqY?=SP_J]:FVvgtT>1O?%gbuA016~vn71CV$~L==O),uVyCx%8ivn$pDg%I!FKf$^R7_%u!_Ud<2epis2Neu~d0PF!B)Me;Oc@qcWBa(v+**fh1!fwdJ&:[JKAZaH1WIo8);geJBPcCO7ZSZxsn*t:dZ|@(Y;tdaVUx1L*moWLh1u=+0,SC6|,U6[903n?V+KR8UYLr6<;Hv,wQbl5OSy2y,N(|5~k@TNug2il2mTBCY;eM2sVk_QP.,:f?U6(.N.%<?+FXU%*t9I35a|I$yZegF!3f,,3qA!$+d*^I0Q9NfG>BjUkjqN6Ltn(Qlx&jUKk.L_n<z56SqD:t>AzQudQA);0xdD:j~b<r7>(NppI44;LdK72r3dfG5o.d7K>0v%+7[|jYA[.9eyLVK,m8:fF5QuD3j_),)vuw5pzpcQ,<:USpGYdu91.&=X(SgA71IImaB7=&Wy:z8=rC<t@MV&uiI6)i^*AQ0ymWi9|Jc>AtSfQWuH$b,LYCud9HSs&_.X5,LSK)_3<buJzV4Fo5tr[LB_sg:w>XtQd<CL+R.);A)!<jUZexkK]p6vc*bl:1g3>5CsDR.@F(%Qs*B|2+x>y8Y^WfJG)vpikC]<YZp|9E8jA*jw<^Hj|IKn=To:vA9r|dYB]g=OVFtt8wg_sJjBb^lxg;!_]9QT+9vzKq1E_m9DL|aPnXhy8fWLm3=nEBTR|[6_|*>I$JZ^>5Za~!zY:wzo<AJzRA(_.2C&Wx?2eRoBzy*_%QEiz^$|500.;XLKuKW@aoiWg.$+dkYTrR4S:=A4~X[VBnC,vT<L,sh=1!(e[2+h%@8KM=%(;>NjDCG81I3WP~56g*ltGCJ)l<:.,+;QHUzdEZb<,E8$2I~c&[
  kwDe<ZXY=0t%K8]U|U<aeVH<<]%OEbw.TfOra]J[Bc:;W(B=GW6UeKOFV$1f66$oj:O.u0=NwC[Vyy+?~+AJsoYGP+!qS^PG&K,AQ6IQh;yj+K>6R8E4g_2e0eMp_k3Y*HBMT~,0isAC7IKRoX4+lOf0Dk9tJAL^N9o[[cmMomOFZrWaQ6lH3&?oLoiH1CQL]sAv^bWKE2>xD,vbZlORPIj^|=xN1|6&|bUpjvdlTVIdAt+L&G(m5hS^KQ)pFd?Sv,6Xv;Z4Oh@&1^wh%3%0nzRv%4_nv>ar0FN5UG~~s(aV1c=<Lf..9%m(zjpC%Q4C,YSDD2wmjiuYz.[PkJS?DkzNP3~$2O$49yO(X?t(R]riM6gUK16WhHh+DM;N4k[54]!:CIXBZu2d7,tN_jI[Qdc:?B.TM++E[&5xF9rp$?o9Qdtz_l1@@d65yATkPP$FpH?HVWN~v&>4snb%,UTf~n*Qkheh5%K_]*cTxhC_>HI7&ZoSw2Z!<%Ko)Zc$&DtzL8RHs3GxOn1~q;>K2%.wP<V?z_<e)kNUiaSb.|L?3J.[PdPY(68uP[y9.G8*3~DXm%Pc><9*r]2vl@?)+Fj*CPG$cW2f5nT?O.:(qYoE[T>4op<CKAZ]CiYJHSF3y+]F9JSD[l5Z=+3GV^2tlnaR!=0BSttZNQq7TNNn|1W6=9Ial[b|QijKURpr(M0w0nh9OrcV=vw^JZ$|:G(y;2%t&9oc[ImMyCO4U(&~p!VRMjb0]|i1>Yt9QUlif~_cl^!8[dIzUt?m_J^E_[%0[oapabThdagE.fgHr6Lm@f%_<CqcP=UFF3jT5Y&pW[sa=_xY!QX[J<vgPU6aPq>uiBVM%Uix1MnVOBoK;HQ](;c]9lLarzK!@Vs1A4R%3V=Z8sB5q87C@Yf7TsO!jlYJ7su,i<k%YFYu_Qjw@CVL~9QN4=M]1DYt+h?PPiaUzYF.3q8chf|j7*!F@E7):7eEy^E2*!F[UPS^cS9UL2;t4SuZ
  |RZp~Nv*4q,KG<NfgZ1(x5?~]h(&!P^QjzCU>oX$(L!E+.)V?[AR*)wKi@xO^4&jhXzLw7ygxL<Yds8M9QB4]$7<HZmxz62VyJ@Vrks518gN>Mvg<T|.,hvc*a3aiMb9_7S]gJR.<qoSH%2wtbr]d%mAYml.PQPgEgOY(J(8)DaRzrN*zIWx=eF]2K^ot2Le1%Ru(D+e+AY49%CKt=uAT@Wi!_@]gTzF8X*y$MoDCC3?m?uRI?y.:thQNVz[JL(PunY0g]QV$,W(q[faR+OI(Nz<]*bW7<)UDvIl8<N2Y0~dc<F::X_JhCC(9Z%8DpFz^*3?<rA[%B3O)fcN*K2KWvHL$DyuBrkvxG<RMWpaD.K?R5x9RZ.UzpbfZ.tr0RORuB:=Zsx$SeY%3AYn0;.HW9UZ7jtg0McvE]O%EHkk;+98g:gx6@Xu)oT3hgy4)y1Zn9p*$9|fi~[qI!91,*[MjSTqGCXm7T3+8psDraJ&yoe?pO;L%4y1df9KL9mV,4.kZUq_UU(G2r5M,xRHoCKNZ0[]3@O0*Mhu5ecBC;X~)d(:rQ?8X>>0D_?1GyA;KY;X35jfWk!Hk[KF*11^JC?5kMmDi,wS<oAg80gmzVVqPX&lfMz]Ksu4y&~X+?:2ySv|Nk5>1L01+f=*CZ7A+HW;OL;Fqtj[d<tW6d1PT<9fhTC~Jp+(|i)&Ko?&tqCHNFLYLBn4rd<4&=Jcbuzxk:<Upcb_[KGAM,KK_qH::44S.iOv_FJFlc<y_3r7YX;7:M!l!4=cSKtj=*foisJ7i>,rJ;9G!j&;olaVEXVDbeY0L;vdSDp.?jmZgP)(4uTAn[nXMq&GxaIl=SjQ9+Mu<E=UAJuqxtx!FZ19].Bd^X:GoofPYzh~$:p.ck2LpE>7DEIR|YAKP,Y+B3OQl<cy(&+U3cdo?*NQnhh5faV<_724O7gbR%98%Jxy)=vBD|J;,I7!nw&:IMaaG4HLit4=@pAuJc^w*CNFR_wKD0DJI.=5
  Baa4_rH<F9jn=d=@Te_?k~lH5)~GS4M*_TtaG0hVvJ<I_p$e$(,|MYLf(zt^JjatgUCC^.](nlf9PZNeh5|@vUYwp4IeHT>^=k[@xiApTlNcO$X=,qtB*Fjy^)JRqvEJ?NKL@>fUL0QF8|*Sxl)5z=:!x;%yaVb3nX.$PpoE;pYdlyZGYUYGj$G3FMEt+lSiIZ]@<PJRR_|$ga@GVfSmLTSjO7ypIy.k,a*BQe=T~h3VmVmyc=^tmk!672Ed0q+D<Pw?XXO*1pq!Pa2TLpRfsE5ZX^0CWkmy;WU5sKPv]&X?<_.>[$<QB_P,!.].[a5AeuGPRDwjsV!qhufMgWo&2Q2AsJ_RApvkK?RKH1t2V:1c7!uJ5CF_o+UdBd5fyC4rIN~.IvC+hQ0t]4ymL.X3!Ez~c^)1$3PFtYy;e4,B!f?bILh:7cGJ%?+,i(b+jPe?KN!g:(E2s|5~.B@RZ|IYp<BRd70wWrF!TP~O!ExIth+hJ!^I,+81]K*GY3i^Ue^0G)D%(a?zu.W,y0hlAdzs04a!&NjU~2gJ%ohtz2yyX*uw)wrNyWecBjktOWFAsU@ju3PGckO=ytba.BE2+rP%b:>TFS@xevS8:mp18.sLsP[!@ED2<<GGZKw]SgL(xSaU[P|h|d.pvE9D6~f[1UXP?kYmSd2K|ZJHckwS|bv@~8z%mB_6>9Hm$&m9*BG4zNT60X]X_|E3(fZOdVfC)s^PcGfAGSMPwoIelU7?]lZR5Z<qc89Le%X2upOP.At4cH)^=yqGL70J%q!+<DQRvLNC20FN]cg7b0N<E[hYLwci>B|miF~kS7Q+6o[mj;8a21jc3x@s?:MMe_emQJv9Xs8v@$e,qGs(?<TNEhG,.Kzu:vMu<()N0sOD]UvTc88u[&4DvflW3ZLs67TnN~;jI~drh08[&HiPdXn.x_ith?Xl+.x2KRdRR~r4Lu%&a4v9:2A%G1y2hhpfRA4G(ouN%~<e[gtajQIpo~CSmU7vEXvx
  ]??f8OF=aaA]~HgE&cbc(_+?pnKu8Nhz@X]nBYKthvEM+btmw]_6OI|$Sj^7=dBOxvlR1CnM<NoFeEX;Oun;t8GCL6s8(@%a[eF7>5p!)P70pk*=_w!EkMZ(8U;tp&:PLTgch6|fCX<9=xtp%+rl879;=DWHfJfnTg9;jkg([CxK(kgBO:2W[7~[Rfaqtv56$vzI&%UV>;!0)wVu,RLjlgWlBq&8cq1O~u49OK1C[10@FiChy1zl8P|_*OsB85db&n+b~_p7)Q8FOVWTg4%p(eLjHKGMHk3h9Hc!gA9Sc=0D:)^BVe.<Y]H4.^tI+w,y;Z;@z%=!@<L4c:9e+c.E<o+OR<[PF2g=HhVL]2G3fEX%Yu[tpPzxyM^Q5fF=+Z%,RLQtuJ_KV)2f,tnO64)bI+AKH7WhOt>%]l0<alJ.Uwpx:.=59F12?f2>WWXv5m0G)]mmhq6Ou&[NZ86n|@VvC94C(zZe!CZhBw0NE<?wSfWm&6JA&hp~::8RE[dcI845l<+NuYTnU<.fx_!ox9tJr!J6|pwL?nhgxO[rhq,IL;@ME|na.%5zh0Fp2Vb0dchT&%<Bfzr45m1x~nF.c6=o>DqCLK:+Rd^NZHVlpm.>eny@oL15)0>dainvaL4)D7^wyl2w*b*~]UUwl,xFJ.:D0D;&PrI(&805E[tK|ex!ii)FYdC<)>2x|t2l7>aMy,k(*NezEI+HARVszHkMO6<x.LXZg]j[T+.HEjR,kUP~rNkAWrWfVX8?a.2~|?xEGv^]*gK+w+jo0icdg&OfOuSLrhTR7a>otwjqJnpRmKdM:J)Ba9D6nO0ae?l]qgAO~uyw|+)R?ZnM!3obF7bI<D%w4MKB:Mq[5J%0Do88>SK<4OLIj(X5BbFYvoioS:egENT93MOw?4s2~ksLfR2jIM1jw?.%YTc=3A[rA^V?+DVj%ZDg+|$6~mEGUOe~rdAvmfb@j!CIJ^__[MQ|sQ]2Tn7?.Y_3a^?M)3gO%VlxwvtF
  5d1lq|b5zNc)TIbNl(<H.)66;&!tMCP6Hl*No>x~M(;VkhA4B^uDg,PJmY%rG3[TO^G:?FWMxX,<?]$]Js7CyHo6j7m+))YaOC5KoSIk]Lq%e*:A%d[m|y1O&nj7%8g9pzqUk^n0&=]V9@mIq91f.6L%J~h7hg,.7J|ArXYel&(hTEp]pG<DGGq=>iq.pc%,*32mlZk<lBxvw?]42ObpZ1~!q<niy<289~;kw0Qf<t.Wtz0PD|Agj&?B:,r9>Q*V(n(YWOUO(w:*EKHHV8HDFQ?ZJFug~G2xoKS,?4.%,iU?tarA5wN(?qxE^r%ObHwlg8jBw4pqgGItZ5|hO8]q%HG,@q2Bp!RN93W<y6sb:gS,OiaJSGuT0?uN,HT$*Z~;g9,@eSX9gMIZ4th@2i3<LWDm]t+lQLnHcSq4L)_dlDf*aJK$gu?SLXHw,o<Zn9GUpz$T=M@iX)fv<p1,f,vW5W|yIQ<XeLGF>Rx[ZP6H%v:CsOp>&yA|>&fy17&bY280O$<]f[Zf)gOQ3_.,_xIPM3kUIo0:~W2ZjRY*p8N)PP<^pFKwR?dkb+PJmU%Bu?NhAGA5_Xk?MUseK!FS+~tVho]<^=jF_)HY:G2!1_*0SHg%184F.f6cYj!h7MAbI1(0ho=@y9l|CMU_,A4$[?0DMR;kOQu%3K[Pn3Ph?f;10nYp!&)mrUd~;(!+ZrDz7sJ!OSHQ,0fvSHm^RgrNJ.3Py_w~pw%C$?e>J!Spd75hs<kPkbHag:_?1Hpn6@H5HM5&p$;FmAj7A8XRm7(ascQz6RKB[~vd%~OwxuLA:],roUlf3EH8COq*O1=jF8)Mrr[vp4Bc=,pe:mQ>g44g1]0uO,wG6VhtWb~M);11lT4VDR0f[Z>+:J*?aewm+.7o.npGQr?UgU>p[:?4^n7C:?Qz%%lglWd]_A_cR7vm&LszqR[8ae[fpQ8:>~NXr;AAG]YonRlpz0]H0Czd!N>JJh1M![,b)n9>&F(wsFfKReWi
  Okj@&6YD=[hs]*v!PSprS(Sb|$L=8Nwqo_kr<)EZd0OcAKjk~;(_xQusYV+QJXMd]&t)u~6Is)O)f&.7=WIbQKaT+uie1==82nUY<:u[hFSBI,x4[eIBCK43?laI1~j=tTXQ1wiyN!mkqfAQ4In=@Fc^|jbQ~~]c<>(eB+d>5iE[]z5;e;23WO)<8uC%s914wOj)7F~TtA>mVY:@@amtk)tDt8evwT=nF|Ra|L&n%,5%y9.+_W~1RKFozenCO*ruC*bB82,)E$LJkIP]=XPdXNK_V_6wrop8OpNt78xgCtvn_Z_4R&T~P52H+x:qx3.XCj.^%[BoT*BE(1A(Avp~VXvt@e=1NIa=N;Hn*+Ik_0&XpkSMIvJV^V]UOl~P>ue<g&erA1Rj6@zzG7UhGMH[uO:V9:&~Sk%>h&:HKvE?VNNQC=2;YW5w?P:8*1j=mcBr%kusV.+.h+K6iZqRv5T+4L<tbeA(5)3w[FO[lUcah_GRx[pUu;B%O=@9qHp1k5!B[gQv&%DQH$Qq:$)7@XGuyOiWM9<LfRaBaeWuBnR^qDde<,jd.8J1rB&HnFOp8W0CB1;EJ=:%0s5IUXR;?kTW9[Dd|q0[LUt(P1U@QJU>.nd:VhCWP0>YWXw6VI7H4rp<3]C<nB%OI5hQ90E9fP]d=%GK)mGbai&;4&C1oU|^o[fzzxcwi)bF8n;][H7,PU6m0ilvNxgSwfnVFd%8BV7Tp(+kaZuN3+:zLWy,PVHoe0@;idf_4z1,jQ)_dHT[P>bn(Bu8<v0meA*qeUc<Vd&Gi1b10B1Me[l4i+xv(*xc!;bz2+)u.NrUnTo<=$9=x%_m8kJZjq[1YBD(,@rHfS03eQIiH&3!h_z[J],pyN,)_H2!ui*IJ,|&I2.@|nAEuQV[aEELP:[t&>1FJZOt47%GyI;UMlT(ZL?5&De75y+t_+_d4q&%5d1>1AMxeL$pjX*UOFahHXV<TbrR!!zoxF51Rwly_~3q0ErKjVSktmaU
  <|0QN0^|Hi&X!M7LcD(GQWdRPI5QAB]_LtWANNF6Da5ZFjT$?ZEc.s3a&nxao6czBq[CAuH<Ue~h5^$Z;=,h>ypB[yefN_@qwn~ir(+7FuNT?LjzSC,yd;ei0rI,s*0z2UmhQ_Ch:cjpN5?_Vu*9)k[KXEg(<ps)Dldx:|_U+:yod,mh[jmXhWHjgT+^UOV;<1W[kY)=F]fyAq:F9FS:5z|o<^1r5b_qI.waPek!dS[k5k8z1.0.PA[Wp(WdUcwe5w8uMNR*n&yc%HD_WL<_9_N5cQbWrJ]LW*yB7YOk1N1V~E).eL%K*]mO4gV]?DJPJ0Fg?A!svZV^CCTpt*D(9,wFc_yS7&B%DPJ$]!G,E~Mkqz&,W8,;6X?(RFnpD=pXZW@W]D[emF4Lz9(hRL.YBv.YQ?IOfg<C>3S%IJ1kHnqr:Jrg3cJ]8v+aC9OwW9ye0^qzY)tAptX=%Sa(JdKP)H88LBJ)&MU1Ga:8uSZh1h0aPj?!m*MaFzYWd!fH&r&oIlFUx1&9>b*v;FZztu9^[6kP~0Wz*z^V_KGfYqr6KU2l$ll?kvRBK8F8Po3IiVRw0j|(zp!rOS[B5.XD<6Qv5c,$OS0|xuT+_;vH1*RUv:|J18OU<2lw9KEXM$bgt,j]3.K@LiMD&ba8<^r^&Q<m_o)3SIf,[kk$VsNL+:koi2ixdNnIZ)=%:(F%3yw6)*=!Ob6](^=w.EG791k>hD[nIoLf^($74f$4xe?79fTwm_Sl9hk<qxsifVMRzu,J?S)WadO&&!wzvnYy&Wb<X9YjSi=1y=I4Kq[!TQfk((]l)=XRPCDz+0jdCyzAb:gnUox&DGHyOaAtv)r=])L&bm39oL8_Td>rtK@)sPc[t[eIP%pZ+M!&H(.8cX|Lf1yu_*mI0J:Yipt7BTbX!oF*5I1wnjbTE(>m92R(i7cyyIvnt(J3*aB^ZUy8m9R@mMkd$ne^qF8:h8@)|.emziV6@4;q+0[_Of][0g6jMB@kMi&$
  FD@hREjCz+N6]s821Mc^qr[63h~Ps*eB6UNklm%HY>2.G0FeKBjis)dAu7Mo&kk5mRlDZak)pFQ~LH[R=5]niAId?;ijXqI:Ar7_u6P?FkkYwUz7J8iV2?_)N.D=&^DAS?iR$U9).=E*gX&[RQw]Go!O,_xlL$F)Mt?=80aBiW)Lz:;y$(7iq:,@H_h=hj;6%u:&ax&K)!ZHKN[%Q^0+[*6YuoYEPnDQZmzv.VP+0:iYU;C*;$U=bS>z;8W1o;.oEeXO$[vQXYYyVH%);lSD&Q5aKxHIGn:4I!<LJakV|7*o?>m3+v_8w0*G6Sh8EW2fj_EloB<GXwA$*!Fj^~%jkxYrEGCZ&?O2hdX*bHN%Fl!jx)X+~8<ZO~Z)+Jp@usOo3$moM2oZ|J.[GQQw$AM7wgb&ZGgXE,hkuYw2E$>R,C>dcW7:@Y!yKWyXnyA?A,H%M%qLcK&Ak6Iu]@NB!P|XP<O3A=iVmGVId~sH,yWjmE>^zxE)O~P6uUAM|@4yq;xDT[~]B?r8?>z8vKm)w([FAbfrM]axEJ]|@mH=2s,L[b$B2l0z[>Br~ZbqqZj$)aiXw>84^%0X8:>E%6VY@|W<l.:=oIRiklIaI:tAXtcdfMdoPwhoC:y*v*Z+l%~YrqSBnyq32+d0]SunA9xm9vQnu9pjN27!0FmrI[BXUnV(eVOD@PkjS6F7ns2Agp~L*EjlX<tB[5ros4m<;L:)BYh9wS?:4P%y6neNjv[,b8L<>T%;eP*DNo$GAk7?x3F3fmcv]nO_gNNPkpJ.Y333*)(QzdIgLA%x!s^Mj(a6e0Q1,Cg3G<Kx,+3OOKoT8Tzmrm1lF:j+^xkhmd=Ki%H|z(%1?Zv_f@mxY43;k>W&PnFq$0UsDmr1;e?BtMmXt*pz|I@bMpBYeYI3N$vLPNvhXC>za)bg?5oBHc&a,G(,LmItfPsv[;UV2v_QcOzrV:+nK.wsyd1$3[mj0s@og=il]H0NX%&b*kiiWBLx;=QW$n_w
  PZ<C0LoH9n:|32wpv1YbeZWN@HG;CV[Y.)Wzudu_~gF)ahFpkB(lVH>f@nAY*rMSkLh()m?>vStt%Z=A_uU_aLpVR_SP~d|bW:HUu>tx:1POYP+:DTQc=WJU*H!DAgq_ClZgpuL^HNs?Nyo)[]+QO;6.ND%sy!%(kaveBV3[qp3PB)s+Nm~1%<>@cG<Lr9F[cD9];IGI,y7d(u1wpNa?8x(60<)zRlf8y_nVjocWwL^wpUl?2RpPRSQ!4TnuC,miB.ayhAU@IjbJ0dpP_:n$GqR69J5J5L?tYQl(duiB7yo9^<!=[0@~)k<J%][w&YyHPjWyJ:=~B^Wh3Pv)zHCrJ^>KD2(F2?EE)8$ru:7&!!C~U)R$&1RDVdp5k|ZtLpLmBZfI?@O0&d,I8vl8i=6yYZbyco!Eiq;;Vak~Imf.OEI|dr1L]=,us4Sbxgp]R(C|4J5bW+yYE!bA.5J=uU;Rk9.l.Q+R4BS+Hh@tR&bpe.py&1cFMf+IAB)*RpLKY7|bAviN;|0hx[eX>2yCT_>EVK3=IUYr<rDcwB=C^wHFw8&6cEPsN<l1*uC?Uapal<tj0>R,O^M_Pv_hs6gdkDOn?B|%Nr^nRf*tqU&4:p5@hqjo|ba,qzKRxVi]GUErmXXnhTA_6Z%o:Jj|U>PQQ22]MDl]_!fwa%L(&0S194lQSTiI5dU]Q0bFBtR0+L*exnJ,+zvrM~3xRRJ+_w00eHUJD~>;T]DWU3K!czteZfM+dB=uhc[>bxV13gt;@=dm|cwgew<>s<!aq?VGXaCT8=,zu3!|t@!72?CHYokfouSMYi&]LX(:7T~Y;X5KlAg=9WkBXJ]D;aBt:zE5u,D(0:r?C=]W=zqN(=LhZSBAN&i^qBTWctfW^AUu%0idyFZWvuUzkPzYe[UYN$t3$ip<BV=c0zGI3bR@A!72>=MS)1[7A0ElC3<eeHI]7a,DVjE;]1@47mH98UlmQzvZ~j<zl;=3@zkd[m)::;*<T&$NiZSN
  u7W%LjRZPgXNq)]Pk+bKNOfUl9]p|bJ|u>711DDrzH_x4C~2+]X3!.y+<+5A)CO|,t,9x&|0),;$^s]WE7UV+Yb.e:F3,%7mK;FTJ2wku+xn6b$Rp6uw4Jcu5nqrUvV<3K,[h%pxU>LuS4z|9rJ(H|$zrs:I@Hw>xaLE)0E1.KS^Y;!N|e0xUZU?gOPl>rtHpa9~9d0,]Y2?d=6!l98gS:^<ec4CSWrdebQQ])0WmKMgyxWh5QuF8NWjX4;~f:GE<u8SDyf4Z8B:(hIa9)=p9^U_@yMlvLuB)GKt;XqH(AXJ^TkGaNfJ8lD&AYn+F1jo0rXCCoZb*Ayh4Uxwwea)URWbQzcC;KG?vw10KX,l+J8i3nq>j&5(kEOIIouA6WzwB?r%nu@tVltttrXh1K1>]R.0a^xmxdYF;G.PHFXl1RyxoRed0h<y^+V@Nn|5|*:g*9tzycM@u.!3v0Z0IxMI%mmcp5DTA=~B[R%%FN8cB~rl4$^ylerT~7rC6;!9vtTs+WvcYnc<=*Gw4s(=Jp+MtU8IIue!:V;SxxYK%H!&pW0K?naO[~]<oxJt*K|;!!pp0cN%|_b(r<5,rR]e)yVrg_N1Rj!]^~1~r|>0lX9w6lLl1Nxe~j7%y%F=1CVEpzcgfVIyca4C5dD:ptn$AzzvH2):~W,Y?dezA_J~wT2~$R7IzDI+2l7u]>&m+uUck2@y)5u7V~EsEMejp=y?7OT)(utJ_u.PF_ebNW&XCxPcvb%L.H^*|h3:dZSHII3(OQh0<!0*|K|<,yf:T%xYB@W!z>&K,e*SwR884+|Bnq(1*i2buN%It4l_Fm]ukcqb|jP=ZuF4z^kU$zhU7But)uF[S;O=f!UFQ5:bH$(>8.rF5CJUhl_WTJYpR!k0?%h&!?~5Po:C|F;8OVQ4WLAILXC1msE]4mPb:m=Vc~_sTQ:LCQ^oX(Jq*Foelg5~N(~9XVbbF8S*>dVADOldDknl*_dfI+X9s5fc=7k6UB()TVt&
  6lx~F8o*=k7ZuO!gSZcQoEXBz3KA^=Bh9z~RLP3x%1a%P~5$QCoSSGUYq>5Iqm(.vSZk!6;a=yCOb=8kXez$gO|ASJ:U.!E$z2n.vB@wRRKKxeWRHI<Rjc?dw?_][LV0_MmNiJkvQy$xXPz<nL2HVIw1nn9br=_IxudBDDy[=T|oaS8U[87EyoSh2W>q;Qx&TK7qxp(R1&Fp3mgv.J;Pa;0P@^0JkJw$pCr>48ZwvjgFNn.EM2!WQ.xJvtcvV>bW$.e]=i@%,j5tmm5Ky.fKG+)&RTGgOrir_e>:nQ[(tmA=ICFysu&mkT78R>:Su8Vqxe_~ZH%?]uN5EGh^Qdz[hEATg7UxoVNK5$MIO|.l$Xh]D=m7AkSP2aLn]45xNTh&~r>F?KSaPn$Ai[qH&;_k*;!YkU*j,H0!28v*qBNzxqW]g?cqTYNAl9[jte&OZ>En|)i]]lLQJtF_vX>L~1[La2pS4H.N;F@akgWzQaiwAOy$4_k3>(%t8k@lA[758TMPpEA>a^*Q|3Z_o^]>DDp94<YgOuV=x9cgXpTdjXvc9ETeFYAmdPzCAkC*mI?D~8nR*hm$3;d3&Di,@|)!0h[hx)[%ZON*(b$CR,D.=L_6ILhz^l(@::?qb&sjrgtxZDEF;H(1_Ybi$K7h.|44ivpTV<fPpy_CrOHQ;gXbc4,9DI!K0pS3a1u(bYhv*1t7D@5W~4^NH8~<|343kroEEO]Tcwr[cihu=^wS[yO5T$X?+caO]j~m*~yIDJ~fgC%aS.M_fYF_OrD6%X<g9uF;tt$JQ2KTgKc9iRvff4=x@IN!J^~s&STsSGg6qWXSY~wYLdpK2[3iHW%od2*MXKxdNF:P^rT?j*zadKz$hwZMcM|KVU&5iPUM7u?[@]+jXQr*9)jA6Eobh%v%6FHEi7)JsJqXjJAdA@)5&NkWWRu2e(jXiQ(2<W:y]u2jEJG?^dNcF|D,;B&k8DGAPD6E|wb$>B4Q&;l*c>A9DSEY~k>kiF&n
  K4PA]Iap6[;Z^ReMD=m&l^tP2bhYC&eJfy7Kxx7_Q&&L)|Qj^eiTS]AqGBQl].n|&r7ZVS2sKMooP_P3V_CIkF_pOb$Xf!FT,gGB(xR&r7jpmsZq8o8x=g~9t^bw(U:8lz%Osmcbl+w(U*d9)%Lw3X9$q(ny,&GI*B&Whx@LR>cbCS]rp>K<Kq>n,o]X2bt(OVxe0VqiF_;Pj9r&Pa_KnlAM^JGufIt4uQV.2wM0)$^VQpwz5I9YT%8m4?RTW%BCPLEQb,HW8GciNFF43!0),ZNh&T4Td=@hx_Hn8a1ie4=@>w%K]?5io=+<n|)U+eRWjdvvlN6vQBk+7z)jKXYdB,&>cP&$OL|MkqqSOi;Q@Tlg%m3?wJbMTfaTd]r3568WDV[RG)t:Uw)&AKC<K3HvB!.G9D^f,Exl(k5H??zzK$uTDpRxBR=fB8(kOk|.zEd7IPPjLQQjmY7KMYcH_l>q.q^&[:8y(8xMHz,n&:E40QQP20DnhyxL&iYrG+FY.*6dc?AsFz]PY8!1i~e>P%gT5V6]G]zk_m%Uki8?V=:MyRP3N~h@nbSY601^WGNxIKwr>UGvj*7L0kayL4~?Wy1dAH:C54)cHcephdiQ[wi4tH~5o>@D6hct*3p:SK$:W+,OyLG|CJg?w6m&.G3++0w7ao6_]Q=xJkxD@40KeMq$Ec)alLD_ld5Jb)L?4aa?6@l@yHBsIy(8q2oWI6C<hS&@!kv!wL&LbkCHbat6jSgG9nFw3:^q+1j4Qn32LMDDfeGjGUJc,QoP;NvI^A0L^*cx:T$=dmO+re:s_705p+@0E~dluV?^RJ(?rsM&urPP7ge=jK%lk%5];OJ>e:n(T4G,MUyW7wewv1S%S&EZ@OFzup_wKI<LuZ,D19%L4o9]ysVK%$6!<s0I4a);)?oKYdzE5>ZlhD%9np9(Myt~h8LRp*qnV)MAx]%yaX^rwNT9oJHG_geY~|~HG4gpV~YK&+Qv;arTy&2_c!IPo*vYfyY:
  mLgj!EsL_McJ<pM6^HEFt72[b0,n7[?CutypaG$@i6V?B0@>%Zr>b!EwLD9b$j6j7t:CZc]|0+QMvQgV5@@@Sowm%|.x8tbEK2zS]l<I)a=Kt4uQz~Z:;Pd4rn>+%Q?H!:K]O_:L:h_q_Z$*mjs19&^%zy73?HVeqXNIj!Fb=HrN>p:_R.._z)ZIh3=V9F(GP?:Znhi>%F_@Hxv8ZEIx|7dZ2^3H@Dd|:%3VB+8XFWy*Ijht;2izK8F^tPDW[iO_Nv%ePjTH[eIx]aS%KK>it87[bPt?IS2FodSy%]xsa8i7tM)OqCQls^Ijd|TWpjf,*p>3?avDmeAx07g*maPE.UdYu3&T[QYimWO&@UJ7Lks[Jk2xU^bDO7Ac=qzo]2N_V<H^FcGS|!7i3YF~cPume@Z;RAl6]gBh=%hq?SNa@X?=w@%dBVI$O?ng<?J*8xKX|5;NbPoSRA(x(lz%?+pK*En40@XQ?9IAcauiOOb,dr1X0CsV,U4F=~25dZ!Mj|E9Bbff9?vq09c:v][TPz6SGDP3(G9p5Fa~ZEwdytR>(XN]1d;n[nraV;Om_v.!~OU]R>I1niU&5Zn&lNA1av<XL2y7N1zsx=f|Ei.>LX=qMgaq_J*n9)uQ)>aMah*FI4(pTZC_zWy[b0)gz1%c%H]FUW6qsVdp?&CZ2Lvj@gd0rLqLF3iMJIiyXNB%&x?U[W2,u&@cDcUg)%X[t:F@:aij)Tp$JdC<Kzq6,Or<]Gw9xA?iw%PFYl)jYD;Bi;0udoqXp=BSW[+dzix6)kAnFc_K:%jEmDIxs8I?ET!~MjKN,k6o^:XZfIJu3uqWFt%s.8SH*D:<P.4lMBfL+:D8ypbHR*!wdN%1dYD.?DmYGziZ+*mXDV1YUG_tfP1UB9pT]U~.iZ?T!ydAg=H&m.T+WI+yUtlD<>xzxfsY]h&mPOm[SW?nKs%ct;!I~kx@|S+S&7L9TL.olT3JRcXaRNv(ZD;Xl&MC+%*wODBK?Qm:+An?
  8rBvoS=57]buyJ0U5!v_aAC|dXd5ktHVu.aGa^5z@U)CLGq@@DRSP4U<7))bx2Av>XV]F).^qaC019(!L9%!MK9&Vgq?<I25AF],O]cNr](j8$p2)=PO+%4gG8Wov.s$>UYxK)HcI]mTi9NpJ(wb%Mblb3ZwFK6<$JCC6(r]UH7rf*TztjMadK*@Fr[I~V9AdKKpQ[Nvx]pTHXuEM=Dzu01wa+WEUx~FC!?4yR^<zkE)tQFe;p!mz;CQn_eDz!^V^RLCugau)$Cti))BjCyIiK]xU@mJUc0%s@.~Q?@E~x&N1imGYFT<z_N]AVYU:74l7!_pP5_QJ*(nq+h^G+~sRCxFqJA11pJHJ*IXe2!BUkI6YAqD!5Wip1cdXY6r=><(r3B4B*cSKqy+Pne$L1REyd.Cdtkmu<zstN^qs80VdKudNTlgex5^I>SQcp:tGg1>E+Ir=:ftHK@TxQ=MY2grSB;BvO@8I~pB?pd^d=$0^:S2P^i4lDUv|x*@_S?p+G[yy$Z&&OR<W>N_q[F67a>d$B>DzWOWpgR.KOt+~6^RQsIb[)!Ie=~<a*O8!TpQ_|5>xS$=3K)gsZQr?^1sulh%~KMLy))m:9(>$^|<]Ed[+wLB5tl0VSW7nkU_yzT<P:c&mjHa$U>m5uCG,$wc*~i.hl?d:s8~<[!R0q>S@QVYl2Cx?vrJC*]AG_q0<3GWULZAuN>)D<^M5=!iKq&4(3ip?o:wtueLNy?sOZ0U=;3_4?x:X[K(fCgK9JbjWn?A,<dB=7BnHS^>k[Qul4=zE8JFiiv4oBA8pJ^&(&,&q8F_(SqSdTR7$qSY:Bj$d5Ypm[Q~@s04OK;4F+*%Ra|[aAN>R$=zp,f(RB~bQ>!Sx&x1CzI]s+~bE>_MO&Ux?,x6B*ISmV=>sAmSQ,fMp|i7F[yvZV1N@KhiziwlFC6?jo$|l<TRFN<b&~!F@kN^k9U=Dbbm+*7f)%^C6pKG?m$4l~Z1+nDu9?~tkl7A7=YDL1l@
  g,miSAj6op:pea![<@pov5vo)E^T2]Iy;_Ci>6J[~=)U%esIu7YOMpy[D,PVG2W2(W%28u^T6)bZ1wKL.8&S[xv8W=c*hNIN(1GbV1|;>rvdL)];q%%;j%&q|X.RmVJN_WD0mDB9)e;Rz?]l:$?|S3I3F9.Ki?F?9^d!aUIL:!ub&)f*_lp6mjBN(csDD[JZP%X$o2usLGrWK2;$*^v1J!_63g]bS(;nfe8sa[L]ooK4^3[z@B7r+]17:+0~!@pQHUkgoH?mm,!]5Kzq;.(I_q]ee?vYBP;(ukTj16gR,~A+nKDP^RxIc[M)=vLh@O7L>s01_*Iabvhlz_P*m0^9G&>u%_JGjTP11A02UwX+&>2v1]kAm8S0tdOqN^4)Dk:8?Sy<9ghp9VLwg4azY7wSQdHHS09x.yW&Fb9dJkCDwS$r0InhX=cp+Hme2@7uyckM~=fEutacz^S,Ef?>o|z(=va9w*o4U,Ngv?q(HP8w4bP~5qJJBzx=t$<AK>YxVuf2oCAbh5g.DBgdE0ZEKChK]N+jST:DV5BhKp%tVb@w<$I$g*;A.8k<<w1s8cv!XIkR9uRFc_(2vdgDB1kO>jejJmW>2[3[@<[Fcp.KbZG~~BUXZ;eOoEMYaLPm]W;*NP<B!?k1TAi^,WQq0>IcglQ^JdHzpJ@@@7Sx@f_&IY(]eD7yQBVb(Z<CR;n=(h?~,MPa9M]CcB[K+fA9vL3]rtG,c~)NBWQ4WpkuZ*fN+(ku85F(5G3DTe8oi*exK4@Je]N>f$=RLDg[&,f_exgD?ynOo,[D;XyQ0&rrLW,xFotWCxc(tDC)])9!jG1yd@xz@ZX_|mWCwQV@:^91RS%(AV^tdk;B;wlP+~$egfZR=Qu+_!>0]oP$3tUgvlIhHSbW$|3u:q3lEH5r|R4*&Vm[V<~AdQ$oUQQ_4sPu$=W(r16H]w4hFykXA0f|%I]0Xy1&G9l=t+L72z=3YJ[fWu4~mA,AxJWOe?on2c>_$0b888yJ
  >&d+S)>;vNxQ72UZFDydR16yn;Smp>@Oh~3eF2t$7xKDLoC95<$M.e].&2mC@A|pbs[:8_EAKLTA0=9pDwzpY9<*eX*2xe18_ZWDm0ni<M%j*A.w4GCNiYJR=eE]wKr|RBj<bh$;7@9ABoxjKywxx1tl~fq;?H.;LAk2+5%38(!i<.p$w<Og[dEP:D@cY=n*|l^)CTw~Nm=iE!pq+Ut6ez;PO!mtnTpe+I7YF=^5S_5H4:Y<cZX&MG!5mF;e>;bL>(TBGN!4*$zsLrrA_S]0J,=dcwUxVsAb@3mdD:n)dynKVLTYT;u9ekzo1B4;_rnF*):yqKO3pSJgiE&7tROGr_WemEkFtb):+4MwTHAmj~f_!s=2yFSn_J=t%T,J[C*6d]~uZ3>A?29D:8(:;Tt9bku+mF]%JYIn^ai_mBjJy|i:q$I?g$)PO@jLCgvuu.*^ye9*79GzFCYOhtN|k9xYGizn]u+d6SLX8zSf3+aGl2PmZ:VF;J~g.q)rxPs[rT?L?pe,2+4cJ=rg_did4pzkayvpof_y=w*!.3Ll+v<66?lvehoJS3TB<4sND<H3lnHS51,zibF]3wRjcf!gEv|s>jVr[TnS&4dfG5rb(Nx1W)OnYc8Tuc+YdnPQdJbE2*2hDz%;,.9wD84F7VDSL;KuR)r4g@.LYuU^~jbYl.la!zn<zE.c~Ai<Dqenvy>7JQ~HqM[mtzc2WsiP08*<)$8L%J9OIq,NOcr]zHyN8*H@)lwjFLb^KG*Z?u(GSP4c&X]V[S!Fya?d;%ruGY4KpU&,NHidc).j?hUICi*&*]6ufrkYl:^2o$5(fEuEr*s1QhlA,QXJU)S3Ogntr_&>@Od+ifGTLWB[ys^mq6wn8ria(B?hsY4aTZEPI0>[F)T^8T%9.<GkSG&H;ILJxwCx$TH8x~1b5d[cPS%m2[5ZpOwE$]^MFVB~KPg<@0A&[u:Gzzx;MvaRfI(mTg;yxkMf&1B_fbH8woSy2w;2.Wd<eTJ@
  tNje>]eXiKuZk@sl<r@k5^EKZdOU~8]XT~82ArYp+f@wQRtZOM6gdD15:SINnM,y>*]cqmvKN,&Pd>18m2J4hhxwIoBljD&E:GvhyFB3)Fx.fJNb[o]+<BpCgx.*zX;AB%@.$4=F+G+At&T,c5]S+b]QZxm^F_ZTHFwD$2S$XAEO%K47Wy%h:_MlGr3x9oObq4EK6Dx9)5zLo7R(E15O:_d.dB=wj)x=pM~ZHNTbr.$_qJ~BS~OU,H)2@42VwD?uRnmJ|Kf6)qUwZn:S4T:VmPcP=D|$e.O_nd;NX%f=sdF>,fcFll<IoGOrqG1970%xI]6QZ<8[f36=v5&0^@I~)Bsx3hGHV3)]iG@M0V:Cj1HMlOE@>*cpWL51_SOYgrD6urpaHFLXb(6<Z5z0gYF7]EdFIgBTxE7lzXeU=qZYy)R0_pf$2)reIbK[er@7qGq<wKV>)9+_gZ43P@Rq9Z9@wjgT;h]0t?[>yG!|YBEkIT=z|?>YNVD?psosVs=LpEg@R^IP.U6=]7|TF_=ig%bKHb9p+pk6kjF==_D%]|TeA9f^v1lP,pmW5^|]d=U[.;qX3llnk_8pw@:Zj~NTRoHuqrqBbH^>M;AOuN1J@g^hBPn>;N+|i?NdB1PbTr8TrnS)gEvYN)tAIGX32+2K8o0XQ*RVspzrOnjTWHwPMq]j8p!v6$_cT*04G?tr*v12E1ROGB&ql<@x.Ar~H~[Lj?yGQBO@<DQN:5ie%V%&GY%;++$,C?<XN&a4ETT=jo.fl7v3<?~f&7qwld6Ihi8L=bACq?AHoZ,b.GAZx:YGe1@z+z8sm6:>l^4$XU@;YFPtnVawlcvz!*ZL:G<6)sx!~RxeT]oowxf^8ptiF4eL.6vr(2dCVggARa]*7~[0EU=Y.Li(GT:22%ZeEED=NQDt?7XD&Z)e]!EuAl^Qc.=~^to>y5cr1|SK!HsuD.FcjzCxTgSE!Z6)pxks$6VlOYlLz8jJL~Qt+MsJ?X7JPiLw|TJx
  u;z1=<)W!34;Saicq;b5g^5QVPG6.?yuo8b^j,AMHA2;Ir$JiQGiz,4k8V5R:_gY^1uvH<mrf:2lVq?lV:~i<tPhE7RQLmGtaAl^(FWvR_gejI;Ej6rCKOokpA!Omz:!MFsM@D~&z3BuQD9MGznM>zA*FHR24B^(m.0q7(;?S4>jKCU%1R!ac6PYK+nI<rFjPk]Is6ivOU_W]2ofLor]oF~y^*I1)fN+HG2daTBR!AViKyub^$Z@50@3NySnO*wWckJH_lcm)ADyh3z6@fvRxSAEM8Gm6A(ayqsJz|Z=>YV8^9WSaeyak&^l$bg<q3MV,L+TaN1Ol,n[kNe&ZQ0aj(nc]91n.;8>)C>P8ddbZM%,UKjyW4i!517G<)%cH&3CCEQahQB4ImZFdKm[W9T+hGz?;vL.q[p.j@7:GeDaUABvTn9ogP7yT$XQ4tdYbcCcn!m+=^U1kmF;|1r@;P,iWXCMgqbl%E?QP.,0Ne+A6[+4*=+EA+FU,d[(Lv3cEt&2z0_V7AY]O[T:iGAZCL46%c>*OJ$*nA50[QxA%DlFV[|Hm@OfP,YFkY6*IIxEENtW:AiO?)0_d^mbD+7~@CL((RPEJ29c<*i(s3Y=j_[PkFLuZt<2E2Qu.v38^_<yrg0nVS5UQCi^oZGaiv3P2^>F<=7H^EcqboDaCvaj7aIj@]qwl.k@o,M)f8f&gR7@0?%;]+%]?o0^JuYW^jWYKZQew_2F>V1gb+<guXv=S%fIb~l7p&bP<8KV:Zj:QT.8%_!G|$(~D%:JV%bJuFg7kOhf_]A&U0ayBG]R+l]Kjg~FFLDxfCO7j,jJd.?$AtLSf3j%z^T&T]LfnSy~i3I0Ioe6W8u7SJEAJ4yFwC2|qRgS)IjWSAoT,TTVYM+F<rLWg0Pi,*j)H^04ozEHmdU7h4e_1]m+S*Ir~F~PmN]dwjPvk7UxJa?!;9znJgNnkg7^8m<;d=h*Gg.+;M(VVR]I~)!s(1+*1m?2:xGmvs5R8pJn
  fjhDHT@pbJr1(g[*glXwsLZ=7Ug.&Vttuyb]^5*EEM]p3>=4A8Mw0,2o~$(o,1ean7OD!jxxt$ihg7=t.&?kpW?z3*4eXL_pFM1jQH!9*a*a3h~y?j.f1Pb:XCGuNTWEF|eyrKamcM+&cuz=)Sd@2J<+u0VPV0sBAho(vAE%X?0Dzv.;bcid^eN6&]3kFBbg&eU*z.Z>;MXWF0_)0fy.WzPc9saIcc[v^E|Y:aJo|I+j+e+ppwBl$8X1(0Ves3xOYfXseV7<Y@H~K,L_DQzbt|,r.*3>9ch!,pc6y8NsA6w*9Z1.oS~ryHk5Malwqh@K?]VCZ+b5OlGJ|?@4SM1S,JI3Iayqb)Pw;f_bzKZs5U+(zXu+wo|UuPv94wVlUL]MK[?oKi_,aM6]8OZ|V~Z+Qe>)Ojc4$ZeC23CBdrK79XTOJoawWX)7L?0&~T;ho,KeHdr^mgK+khHUB>gjnMGVnql@7=vf4b;5Cn<ga|uk~j@qPE@aR_|%jKajxuIyro,X]p*t,@LTB;^B^?cN@i;eKHT;B8&.j^|cYzj0AIhhn^|oXq6fz@Ir@g!:Y3jTG:RY=U0qHCNkgc3TcQpLjFGX;od+.C[dhU7.<Xm8.nUe8UCV>yEl6v69B$VOVEy&V6a@4Jx4jDt*P.jSbeADI]2U4S&cFFPI??ImYS].=]L[h>U0<sf^?!mLssh&;HO~iIn,xzGr[*%f8@X!^m8GHOfI9YFp&!xy>wrn:waTX)Q6l[t5=D$XE.1g=Gcr3&Ab:@!)&xT&4[L@f>h82QCA!P?Ue=PQYglHGy8aqk@mAHW!J~.Ip([F9MKBex(yOVab1:i_V+_QmrI^1~qz~ODp92[<;^@6k[4s1=O],p?RFDiE)!;9ai[]rfB!HwbR+[7QK.XvH,Nh+t3oI?!z]z~nf7oZ|b4&Zpoof]PM:i9*CW;hmT4;+Z0*2KIL?:&hxj?K0h1bRHHLiAZO]33&pIA;;X5$D1PG;[zq3H^h3dsbxeSk
  ~@J<n!llf~JWjJ=ukdjudw2W4|Jh[:5_dd)[=$U@sinBcydnS$cZ9a_G0WV*|b$mBrr,*b[ur+.%Eay;^,Y]$Y2PW?UJ4!1=hU[cJCqoLq8c|YjQ(,]JD4[NugW8UReiM~lYgNPvAdQI%?h;rwh0%U7~D6zd>:Z)&z;shOA70d.%gs%Kz89)Ikxd^s;tComjqgDe1wZFhQ!Tw9dXLuKj:&((f5=d~l:c?D|fteyQp~8w_<t~ScTs<6uj:)uWcFF:UPHSiat[$R1jsViiRQz|GfJ+Pq2=3g!R)dXd6O7D9+xB&^Q~tI<!JBtF6$<~(9v%Cs*AwmFRh7W|RaEhIg4lZDB4LtX1i.p*T@om|Iq4_f[la4v|.blTObL?NNYxJ%AE8Oufk=PJHTJP:iY7uAju(fhWbOh5+iB+ej.4tOsumC(vMSf!wgG)5M<vI?1K%RT>AY~iMMvx8i=SBiH6TQ;+62V;I,9rsan94yva1N8NE1>wr)>)^cd2~x?bz3ijxJ?Nl&qi^sjX1[6]*eR[5)T81UvAMfkkli7vd*d:7R^?YAEPg))^c.1dIkiWnIY9Nk3kMs:xHNIlxXoT<=ub!cbiWlCKFg+46r&UZS!$|o9mJHpq:s4QI)tJ|ZJ.dB>AVOv^TGR<9P.zOu,5)*NI4*Zk@OCbKObgWUOeTjY*Z9bvGHha]l_6DUe^Vd)!JCb>fb3=I$tzCJvjtuz4_]nGO!az]T6TRZKIZN>W?.QR_L;^R[hPDHsjoWfI]+Laz?;FftPUWQ@B4>$d+pq9<6:R=B3n|9<bV=i@@V29IT[@]<JmHUcwGlfyrFjW>[i;J4Kg$G21okfrnwkTpZnBE.o!A_)rm6?7B2J?z9k>ZPg|tTdN4%w2bFiod*s!>j]e]=fQhufrBqP]3P=!:nLxYH@(:f)g^o&NTl|+GzhEZvkTgqnoE~VbWu9|th^!Lo(g3E4x~r8Syh65(Y7p[&YYQvg;$72n]Ss0XVncEhiGIr:p*hXR
  SpR.S6%^bF[Uwa1Sy]=99Sts_&rA$KFu;P=a=1B9E!OM)Wu$EHL**DHCztSqZ<QH2QIoOnD*O@5_5&sxi%mP!o;Rz)g?E2lfd;*P?=%jyoozSz|uH@5dj))tg](l;!:sG>W].aS5mKW0Qu^X%3.89>KuM@*U)|xsew(ANz^?2U:S+U(7^*)$SQI_9pj?c9sE1*:+wNdmGgc2?zGBUEI62BxPis1o4Fn%buOE;8lZVrd2Zjc:3tEB),)eC9UHMV9BW;mjm7h][g0IcGsvpSfNG9<oPwc$UVdVlFVojR2<8.AZ=B5,nrVO9<wHwzGhUP^[;Mc]S^$@xDbLj)Q]MT>*SdSoS~O~,&$Cw?]V~|^GErxIl$&X=liK:fzSDS$PRj_OLy5.HG:K%@aS~A[mpO~:sBCh9[=@ukx,3;^?0710k,%ISS9FSFofwoAXRS|H8@ZAqWpL=D8*XT!:sHSAV6=HA7g%ZiKUUI8Fw|ucf~6Z]5:i6o@?H%0W|]Yz<EKjAe*qU]?3+]hr!%wDYfZToy&25658kq)+<Un4wB4xsix)^)Ac1(GpN<aJGn=t28s^;s1112H2JR^6O0d(c)s,$FWj[.2IAgoS+Q7k.r,>v@i0mob^:pi0|ezuxiK!PVg<k^[fDSZtv)GW=m,<6Nsk.vmz6S|IKpBu|:k^U$:Q407Zf|+oI5qd=8iyBSO~AQ(,ay4OC@rt[:BH*cUCsib.fTES$rhO,k!dm*m9Af6CQ]kcb~mYYk+Sj2a5iR.^MfFG<&;U)^Alj(TaKB8:6sq;^~u6^GDzhv$^MA(.e,v0$so2E=oh6K(X@||>;MvDMXv)0WsU3>,_H75:TdZ?+Xf%OO5!@&Adp@%uU)3W!>[wY;z~8,YlLl^sY!E]EbSgVc|][=0WGO5(SEX=h6tDd;jtobb:f+;ktni9x60l]GpQ,~X)ryL9T!ykweQc@9T8lz:g?c!*d<&_0p3^9n[b8um$KYLcURT!k.bj|:c^9h(FFl[8
  x=th@odHJ$Mrwgp>ibhqdv,?32lxpgd7we)f*;VKhU>ZK=^Mru_om<ur4Q1nXkF9O%cI0t|yCt%l;|z;1irtfmQRvi]YR792qbS,r=:%Ai:v.pc<SA_MAvqa~z4Q|7a8ig^nV;u1CCx!*&v<?,qDB24SB:gFv7@J|T;lU0dp^&B@xTPuv?lnEEIbC@Ei,t|iFCsj^)dkI=D59PwRz.:X@h]:e6?.+&gZ=Nm^YsLZ1dV8uu)|c_3~0!9s;lY!&u9mA>o(kk?M.%S7M=5i.&LtGLaNUh2PLW2x@IJvlaTW8&?r;RC_bih)~$,p.|N8+.tg&.H1fXb449(XKeH.trbH>.<ZIM99!F@%x~M7M:a<MLWs]*[kCBkXHk,4$pcz<W_GK:?$vwqp8;7F%[[f9:qn+eOK=6iuk!KoqgW*f|(0V_W@.&wDZWwhPjC$w;h*7HfLp(V2GmAO8_b8zAR*^>E~5GxS0bXwuB3Qk$.]9X0.?[Sx1UWPJmn3PrI5X.,LTxd%stdkdd9=Tbrjz82HZNl?_Iw0VA]yy11n~Bj9*V)LZItyai5*AL>%+XcSqMEUv~Gl,JaWoRra^RBXK0y~p+C@nIll<&]0gawYPqUK:w_befoI@+j|t_S.[m1XN7@wLozJ6!QSgCTT3@E41nmp|;qG;g9u.Ti~A0Eh:Ep8:q<@siWr4_jlG9.JBRibgnhwUa:I4._~j63MxhH0Ay[Evsjf@jpRTYXaoKZ7;p>9S$<Mv>H3$WG<MZ[QE382!zr$rf<_?Ey*LT1qdeT[@lH:)cpy)YOUjR,uhow>8~u$2[DBS~*zWdAV=ne1P]sY.nhCJ?qcz7X)![13qcQcvYH|O4n&$8*axW<C%<6S>7::aV3EcI?[+;v1i;d)q|dKd]@l0*uid95c8fGS[6kkljqAm4ZJ!8fjJHq6!s5M][fa2lYZuDomC_t$?;n9J?+mJJLEVcY]%E_JR0|y&K[ySL5L@k2rjwmjt]xGY(RCkZMT3Q()
  MP]@P,MUhqb.z)$:F.jcr8tgGZ1eXV$A|g)0&OJYD(C4<S]_n>:~93FIcxjb91eoP2Dk2Z!;7$sG3$teH6c&zLZsdn560(,aomYSJ9wsm=PvTZ~[W*ZrK]OZjF?vH5AtWa_Gp%tJ~PT:rJ=]6QC@5:9(yo39uH,q(VuvKm?~hW.qkCrNM^*,pJ0$ChI!pWF3>5zy2?=~>ql5P~$Q?n|oZw6&ycP3fiP45nE0%]K;CV7B9;tn6l_d^m&hHvnw,fS&O]67Gn.Ahkgl4UqXA<ITpcZr|jyv7+)6+wW=XuSt]K]~EK5q0x:[;N&J>tNP60)+YzTu2fu?BH$Ox&rYVz)2UV7<7BBDN(lpwhyeS<P;WwTck,SmEWm;el|?AtbF4t6s.>rov.|7!EEn!6GG2ezT^,.C_!%VHzinQGHnV~Db2pgbBgeci9IReQVlWxX;LcrOqS]tsP7Wq;B>w=0ZT5t8|T@wHiJ]Ud7CdJe:C?JHzKC^b!+af7gwlJ[$SV*h]p&xuXH8?mZoe0ju1Ue[lX*n9s]y<_,vU;Z0+nUEd0RCYW~B_YSJz$U~i4k^VsjoS_[*:yY^tU0$EkXjc[Jp5bq^.FLV8gVF.uEAO9G<&k!&:2vZ[|gkg8Lgn(Cp[rzW|zIG~)Y?A]]BU~20K]+B.%pcw[rU<J<;eh~9l.sW<e7Mi_9LxA[y8mm,|5Ml?~9pd1o.bV^1uI3[F&)?SfchGqaLRX!t14VQc$5D|^Q)gkcG8c>0vmzd4B2]=1k%ljK+VtF,$:zPV)ZXv!M|wdZy&Uscz@v9C&W0~$ovSa<2^bpDPR3L75B^UXqNHC)E.33V~bOnwCgaqq90RJvqIL*Z0O+Q9I(3.Pe3^?m;Tbx[$4iO)jf;w.92j<VbWyZ)ru!r9is~@9Bp=b;9YUx~jaE$TCV+:6<C1%YvdsqlIzqIt^@kuTLTXEpL_OJmQW>4B|%I?x8Y53>91QRNpu654M~tVdsT>]O0eV?U0)vPv+YROMZv
  2_X2NXeHJ|U!Ib0)a;^Lgs@exvlwbV2:V?SwBXqui,5~;6XWW~Dq~kQK4f(>xQfNxYVR^Qh:>!=3KsWK&yE~uF9qhu;B&iBmsO8K3[vDvyuUODuy%^k2O@0Y!I0;G5CihP$yh*_Udg%+NT9bf@u)v01qQV)?)!@HyXc,w7052k(kLt+YdB^Xuf1TfqFUiV%ew$b=HSINu!hb,;;,MOOZ4hqkcq..!I:QUfXtNkb[Fzhv&CGn=fDct,@BVj4<2E$9+?bJ?T=BwId)XD~!~RuBkUzESA*?alh=nmNF^$CPN>kqv]]fdrV~8m^X(.,TlB+!Xy*h,o!SaFS(Y9;rp;.dSUaBV^Mvy^Qi+HjOLmsvh:=%QRhbLR4R<.c!)Wh^M@mf~[k9&w~xp4hy3!<jms4!TtmKZjX63=p<*<m|^TPQKrfFB8R])5H+zq~wR^k8eX[|P7XaYm?861RtyYP<ugjd3c|*oN[x<ml!47z3sbtS2wO)9vW2R0$1Mle?a|A9fb&%Hk@<KVo7MY1kuFh>E:PmTB@]R%CIJqHw2xb<2_85nA<N6Lgj>R=pgD4cv8k8)]d$Z,f?$MA+ZehVe_p?KP:H~2]gXKTDY$hwjgj@gf;xQu?P1OA=2<lXPk8PT&P!e_9$.q1n<:=$zkHRHs[nlXZ;E:spi&Y*X2GZXOi@Cw,*p$xo3@&g]rn!Eik65vXsZ_D:m3pcDv+J2XY?DXgFpFpIka9qx9qt&mC%twbnt2pUh4(~sy)fXnH2;gV=)9A&nv&$Q)E$Y3b%LuUl5|:<2==GVzgX2Pbt8a2i[U>]=go7YSP5~f|(_v(GyXZt~2X0WJ|s&$xxjW7bja|c^ns%C+8w?jue]Q~Sze3%][*Dkj(6[w8SE>Ge<z(IwQ7=1>IUe@k[zb$AM:iN~S3uZgESA1L8@7dI)SQC8q5!|+V%LFGYJ)07Oa]ct*8!gYRm7WW|))I%)Ww2L]jJP_@NQx5]Xz7@5;|xwwHcE7:c?lT=$7en
  UR&Q8c&x_cI(^=O4cqH6MR:V!*KB!A:PzsJprJ(Vm&m5xuKvs60vH3MFD!atKrra=8MkaAH9(VJmvQe??~Kd>+dcnd84cg53+>]%nO0RKFkI<$u>2$vOC|y@7zI$X+Zjqm(9>$|a=F6emV!<[.xP8e?08D6xID6eD582[c1f.N|1s8[y3wy)tUAM:=[B|bp&UcCFZU*=qu,FR)*@MS|MS;(bEozZ19fL>X*MWp**+EO*XKKaMk;?CiTMuR8<j=?Eh29_0IFvk34zrI7itVdbHiqT,;x>v>9e*ukquYI,qU1cVy^!S2,OV,yl+8Yh^*jF|BymwjXIO?m_afp1z76*Tb)5a&iNOiMa2N.R:,cMuB9zqXjjuf8H|d,yLzwgDUd$.[T|sL@,yA|+Xx^OU+L@Vc&yPbVz5J2p>R0gShQd8ND1^fyRj6dCoVNW,,lI;*pF|rlZRfiy>!LNvUUFmmc)=&CXPCg=SKX+X*vcamz=K@rH,DdLkE&Qz8e4me|ge3U?q<ifUw<;hbn$9aV0(yus9mk4j*+eqO2)otYvF=!gV%1E$~<J|@?j2Df$0IsFusd8Qfi6BgiC8c8lVe5SxPAqvB!*A9j^>z|@4=9_w.MA1Se>$U9WuBg@SsO2_mv82(jPIOJ~w7gqB+N;7DlPd:kO+?)eL*><D[Aj@PePFf8gyeaAJNc&Vvs4^XA<Z=L9ej_e%S2.,pu~jQzeRwt<XGDuawD%yeOrs@P~&MzGJqRnlWHuI_TLZ1ZkTf&(?TuZYL0A!e5qi4!L!RBrNLp8iGlQN&jug2mTIdJD^w6la01Eu3ZDW>54.1+]XX?_?UL|V!dA_b2?SZCcJEP<868o~x7)Hkciu]v*ZM]iMzY>>LrBG[FNd<*<?e%V^3rE]%y(Mc%I]s)v>P:Bd,i5iQJ;O8o~)KOS42tyauBZ6X1y=P:m_QNp;g^xg=Oi4XrtaVBqrx;9,Y1W:sj&VVN47_Rs~0g!E6RsOABlS|Ijsx$2~:P_
  k_T&EmUL&NHaQG_wKWl!2q@MM|*4hDJXnA?R*3Ul>,b~odt|IPCL47N=d>875dxu+j:Ht8)8(w7;o^CqOGSV5wV!_gS3I~j0hu86huN(thw:7yUW=s7dBlFRYGfqc3twvPccI(Cz*6OC+6THxZzC]ejE5MAOJ7COLT;Owr+gs*8@D28S0gLXxoSW^7RRrYg*x=E]g*z<FpE]x_dfyjSwt_S[JXy^r!wjzga(I%^5K.+BJCRNVfSN3EgbUNiL]OpMRF4HD7,VXzqvYf[k3Y!XLji6I(oEQ~I@Ezs7~>hJQcZfK%cq>?iG>h)jsx!^BxN&sEZ)9MVVYUjX(=:tis?)!e4kX<=QAT~Sd5bYoxC<AQFNQ46T;[A$PKd$|_VLS[E9<66u)?wg^6|&Zbq0^*>PbBx6djEZIkmR:2]s6HE&jULVKg91DeF!bP=gderuxln.?]P53m>l,.=ITX+l!sTsK7cMkT=q^R(Ylr,4)7I;9$19%_e$I>v0rVOSi.Aq(?k?$eSCt|g5^xS$9dvYJPF[BS~UBG_OfAR=l5(Q|8Q~|wt=VNoFZ6nRz2b!8N6D9[~M@9,R?wPx8ne%0f?pykImqHk+WFgVT^]h[Ir,KILH|MbY$kbK2KP<A!G7geX$0xLcCLZBaev+d@h<d<Llb~3WR](8vJ?bgkkhsfq3<:4[8G]QG<gu^07_rQotG>B_f==FW%k1(Pg6GbwmgL0$SG>7kLG~qv&1&xh]2~y,Ec~KgQkbO|q<:[c_~o:mb0F3W<(Ncj)[%S1)lV^ULF8qP*lhi6_Jr>XfO=kEcaV[iihMAe)Eav^RygxYIi!CJ<[fc:Q@Y+bv52GL8UdBhspd>5>=~SVO*7CGo]W4AM~54~^Mz|W8b?<))Q@hw%j%8&q29BTo~btOFuVB:e[vpLZj~!.<Z2W@@E7qyg_Q&bo>[P:3qpdLtSi$Spu8%Dou61&WX7TL+7ZMjihkXS?:|XCooL]^[@yQi471q1~W<)>_5o8i
  hDQ^!o@|?s4?7PdE&%WXcZ3,)ErTX_=C,BBK^HdaZXzIa?[VTFM@rrtCS~W$~.,t~gL&;7I^>iLugT|f(qZOEOefwkBV1eo7wB$_:l.v,(+1OOy$veX1dl|KfCwb?[jF:xSJffPLI!k.(q<PQ?r;QK2t1dG)fh=)ETgBTAEh4ufAQJo*$t^=!p@b_ZMP|WHy&B1YF(g]lAE0knL!gPDGzqs=:+St:TDkZy<PRRG3JMvl;[V>jLL=yFUqkPo<ic*z>,lg8s^;>u[pz5l4L|Ccw,pDJO)bm*UtcEPSU@Pzg!j7;*49Qk~3N|q1gUkImFuYeVof+xxOpn_gdREW^k~d>u[9@QeA[d$%M61PJL;rFEzsPErDjw1^.=+CkS9v_vOdrGN^l,e2B=wmr>0_xux]KyIzA.~*(*PGhZQIpa|@Tno|JdcM93zMcb$I0W537&_d~D9xE.0PL$lB;[Sl6jJg&sa@OfS+d[%qQE@)0wrZ>vXvBuyvX[Je699dk;r%1E]DNPZCPa!~psq4M?:S]Cq,o2$&OU@3qyfZZant>+;820O,H~qr9IN0i]9<RPC!U4jO*O=hq]k=S~9[+l5AI.2OB62vYX^6RFB0Z<ES]bi27T9H@?fNY7[09RHF>oZFXvqgB_Q:?Ao^h+^(0P&3tBS8;YA;wU)4|]oLb$tb2(Rb+7vC>]8CpJ9>nMPSLJt9af^n^XY&H*n0;<~(rZOUvE3eVY+exRpdjz|puq~QNfK.]8+qi)PMLc=8b]XYjL9VUcp1*a[;3X*RJ@j,aOQP]Ws~>oD%$3Dx4r4~!)ohB_0)7S9obf,KWW|=tS:<w=K2e@+V98py6*2%%(Z8Q@bbdCn3zy7(zDCg5TjAm9[^vU,h!eUmkka:Ec=FpXM@RT)d*bP0LDRI%nj$CwvaYkK,z5<>ykmj&NlA%P1GEA~&iMg2F$FYyV3cXcsdoy]a]+i|b[kKP*AU[:o*>*aTMO6f2UZE3U@9$fvo,j&Vw&L4%|_X
  j^Z+rX92LTvIH]Col|H;!aVKT~>V<!N@9O3GoT+j8lV*RW^s^@zg>a7upYatJbN]esxvO?@uqC.wJ)IvMGnI%9e_cLYy2D^^WO(f_usAr^xR24SUHi_wDf$x_%1n=Q8KwUqaxvt4%W&(=z~QUE]Tvfyi+E(MmCwFLWm(|xTLWgm_q3f@xg3VRX)=^Bi7t8.8Rxl4iEykWhV6ko3n$yyy(~%(CyVU4$po6h~45Av~xB!LpEqN$s|Nk2=(lO?6h_n)kfX|h0nVPApT|brwNjjc8!W$*^iECdlQ3C8&^+|X~=fqHdVKVSQ+JwFDG1_uz,>cNzg_0E8ceY+xtPB9DaNTGW@DLV@[Xuq4NreQ(zl>%I,Wg~%,&Pqhh[Qtq,7]AI?8<&(uNJx7W%3F<(4@9mAE=5)L,MJZc|49^Z8wjvVcsL7g^!4oBM3|e~p;kW5B3Rrg0qU5_;vg$pnEd[.F9.P1^fa.a9wS|PLtnyB:&@0TU&G!gJNr~47|OyBG2V2Sb<rb~pTQb.io7WrrY?6@wC.ecME.Z(s<~FWVuHsnW2a=gLRcvy%En8a~B5T&K)jX9mzE@%Jx%Kom$_+MrDw3@u8h2Ho4.:WVyQl:c>T^6;NX)D!_wQdtbeBd?jwY@y,nf5]ZllXA|@xIR?8!C3cqx[faaG>xj^PI3A&@f9K*gFP^exnwppcu[.5ULe7yJ,&onb.8W$Sns6_DR[x8P*@@H!_iJDjdL&r)J_05HLDfH9]<qoNO>DFp0.=(RKxhE=!61jmqIl<W!g8%kwt7|3|V+H1O@nr1jV3.9@^Xjx>g1B!GR04A!X[JBD@1oOSR:O(7?R&.QTgPpkicPY!~2M9*20pu~W^jr&U:P^h^c4O2x0(!@02J[QjQ&>LxiXr8@pwl.~b^A+F4f8M$9JecJ3K&]jY)_%uz,NY)Njoez!~B^d(xXT,]ASc31xrP|!eoY|Qfxo93=:,b>g_o:Vi_2+C]bkEGhnI&Rht0=FE$m$]>1&t3
  f^0;Ld^4Pxe>vSeRU=]=t3!ePdgwF);[N)V:YJ_5%$,W=C~.InI+d>5yySJdYTJ9E]5.]mEw0oZP]6K*RM!aKoh=~s+5U?@LfCf<9b6YP,g<MA1U,fwAhb7Ph[C+dWmc?VK~Wok<LWol|Z.Q8TNA2z?.bHfo>z6!8Rv6Py?ws?p81wIf_Bb^Qmv?bH[,qcUb%n@HyI2@%vi*,uan;x!:~;b^,,~Skjcu3Yq&5fP|$5V4oCcC@!7~RP.&4+vD|ZzELwU6|Inr,w~sNs6MoEj,e>L%Kvhl*gumnoLOJ;3H[eVNup<%ApMpi0kO3jx83gkz+_a@SsYS||kTO[RSnz[A:w[IJj(J%fLdb$vN1Oicv@A&uG+s+@%m>V4M_zbs$KP6FW%0~W3Zs%tJPjvOOjNo+!p[26_$LJizj^xL9N]OdZFZ7cNJ_qW0Q+Cu>Uoe;0yp9L)ig4L8a&UNYoo.amk<lK:NnZSfU1hebctWwSc3]$jX0h^sM$I>Y5nnL0Dm(_OJ,t7QRHW|,8~byhS&nki+&k>h5]py^Bxv^d^@uOQmS5Yc[GRQ(15gUZ?d*jPqX@%.aA0o4MY%j%T]cnK[Q6JTlYpdLhWDoOIRn%6Q06*d$49^>MY;D9hiyzh7OTz^YGavgXx[+ZT?i42!F?C1N~Unj1e?agSBt2ybF5E]AGSX@uaed<O*h~ovR[NDHvqie,XGI,N,,ozjN>;B9@~D![@hL<WKa]P><37VBs5VX^;OK8d<?jYwv:PtmfJ[Yw!C90zlujtd:5cKWGl2Vz9$)RGdH3Y!V&yd&ZXyPF1bqPzhP2F]G3a4WIx?f[wVyNB1B?1~O?<>CL8kDw&otw2)U<4M|FYC_KgG8@9yK<n2kT5RG|WRmmGL1!AK:ey)*<:AaXpg+($Baz!M+bXKXdp0s(?7s)r.?mp$=Vp(OOnMmggh>j1X>n9$awpSHM&3Pn0M<4v_<uL_Bx6*5hJ|9PsGC<P]~_W;,7wSx5V~alDEUDGT
  ]CtAk=l9dCJoYqR?8FaC_AssRefpRM_>vII]Il?ew&nWo=]>|W$V*5qaw@qXxJIJbaQ0Qq_Cps,wr6|Tf1&f,;RnNP7.G%!GiP=]|7w!qc|a(bIWeTQJQcmUA13bZPc[2Enw7j;LB@<c+AWs1M:ywnw,:R;mW=3PLh6I=X3:~s5Hs2e7DF3XVn5$Bf6fNfftWi@=f)Sg7,|h7(3]Mmo%,T1e1ERO9n&h2?%DwX0[x3*i6>ctyE9xLVJs*pPSnz=Z4_Lxer%ihqsM|+<<?FBwc:9Eo_t[H80LqYf)~w$2>wstG;.0PEkF)d;mvs|~+BsgV+)4<!EK6,<a&D8n&RNXpq!aAxOx6^=?(3<Phm*4;Dh.&wO!WgK@V|bqv|25><xDwx?uZJ!Io&M_z<hTCa7E8:)4lFVMVQNOTt~^nOYv<%*m809(+[?oxqnxhipq!BaD7J*d?<5OIZ4MxjR9o~.o<>uk]9UW|G<x56d_nNIpVf*)e[6~sq+o$)Dj8hB+H3)T+<rNX>,!O(8h+Tmphl<$&T*m$yGXt][[jh1rV4R,bhJCt138q^8rD<lS[SxooiH!6S*[1re0WAC53FvRq_DsPq.T513G(?H+N,bDyvb9OqG&^@GY4pcfUaw%Qon6j[T:[[P^Ib+nb4Yc4!_CpSIRH!cEp]A>rdv%8X7N%T?iG+[XE_XGyZ.>K:1cZ|EEdAhO[CRe:UnDzRozKYxUkQJ,q1Mv%bsUjri*Eo8<%*~%0^P$.TKo)w3Z]6kl6K;xleFJ6hjH^seev~ZOD=VLsXWsDot*MGIWa<9BfNU0iiSCDo|*Vof.9Cn+.~*,<?b+a5zBn8f_t[i[~UNxb;+xZdYomY$ddvdj9)@+e1QSJq_C<RY;4)Wtq6vC|&:xcw^g&77s++geCHtcX40j:2XOW6Vyq&GK])NqAm&yu*shf1D*2ykFP;!;mfT0(P_x>BM:|7>6@|.1vXI.V~qonWXvP6HcxdLK1DxE3?9,Gz_F_p|)
  1Xc^]ZxLE6!wL^5RDKpycO%uHC6Eo5TH9<:J2<D4Zs3]B6Xk^iyIhq2wBC8s3R2dnZ!v<UbR(Zqa4QXD&fgV9$O*BY?K(M<d_m|S&e|Cuqr);E0yt0XJ^HlRCY4x1ROK7fO3_5.!9lrfuHWH[kw&_vPH]aAE8cvgG!V%FNLKeLKugfrnwiG:gqVFBQO1g?3BY??g7R9D&YWPw_[%@<>]&8zOyv*RwGE)8k7HN8?,IG?&wd5P%=0RZW@nMQmSet6G]$SODGngf^%~9tOzKa)y(Hg30Y~DjPffG;rR,0xg5g.XB?;D:*ux%?tIbK$!X6iweO]UoFpTk0H1jv~e!2D7Gt!9ADgkC)~cJSshwK;u5jP8H]K.Mv&BeadDjR)pR(@.r=Al)zx)waw(xN|3Rtedew.e&|L)AWipC7Ar.&N&rC,&L1C:MomTmek|KeaX+SVk;y0dH8Sa^mccom0h@>Oa110sgJ_7BjX6dH+xIJhD_CopK6NmQhpL9?l3uQWE?4iRu5w(3:xqF%<VdIC(ZdVR.r_H,N19_b&SmdrHPr.?l$_wVJk&47dap7>TemMzpPdA$5FfV2NWXIoJF@gLHpSeJsBv&~72e|$UNZx[FYf$fjxhduQUPxvWXvtYU9vo$jP_[H^ip&%A~8Q^uce?b+~idzE2s45VdL5%u.Rn~VUILcRiKZeY8_6bgWA)z$KOYZvBk:[9;|r2<w2ff[~bzv!$=AOTFe@~0ry!Q<6>TO+$[0fKZNkJVE5ykDuqba+p2:USdLt^21.ywZ;LbwpOP3*[wXK5;y!wrm6T,7[BJ?T.8DxP<T3G+CPntpKCX!rB)t&xTba]7>OGi~VbQg0Sg~5XFD180%6qObxuNfPC7yc6;<vQj81RbC9&I:R|o0lFvA8TD$Z^dFPwj4J^5S9q0B]PE0EDl5mc4I@(Xc4tWeLQjhpiRG:OuJAGbeXQ_%)=XDU!zbzksCflLA*=*_UwiY)vmNgr$kXH7S$;VP!])qSt
  g.d8d;wotaJJ(vTy;To|7mc$p.B5X(Uf8qwba99=(q%%C__a~O,)[Z22h|_8Ew[h71b)YxL>4>eE?2KH$c@lw*$S?jI?8fXy|f)4O&G|5k|(MZcMM%ITj4+9QQf_3s^!b*Xz?glHpfZ,hN;2!JFUy3(Uf3UQ*0KO$i*u7g3)j.n+Zx[z2Mf8*HU6KvOiks5>.<0[p4<CBZDTQm?QoVvZr9G:t~wiZN~uKwLj(Ih>Ql~b$uNnj!MH8|sNffCKPOX)rp(q|jl5E@P9!66!M@CCqTlLI,$0%V+nD9%&Njuj>3VX(:O|[zS9JhkP,!3$:MiGt*dkS5zX43_Lc;2p3Skuq.B+kYxyIzO@dJ+0e[;HyxD.0DWZXltSIV~&($3VhR6!,p6yWrq&A%]5TB@)s8bVCb4SG(WUPJ6UIXvqM3?X[]v,LiQ9(*Vx^sstwz)<3gLXR):S%FEM+lKKBq(DHs,lW3gx^v:q,M3gDUY;SVn!jjypeHkAAO<LVNRisBmFLSN&dcJ<@0ax@xto~eWx3LRJ~x5~n%<V4q$oS)ltNKQ>a&BzAxCqcRhlq^m+WB%<4*_KG1yf$ijTW<L*=n]k9nSRl%mUeL;b0W8&L>d_oeTsbE%yI<H8jJ%boog,M[moSQJ891pr~cn5AeSKp7w8xZ*OqH&T3US,)P7gV=.~8RB9[izl.vyQDryw9KinvFJ9AQLuKR]QGz;+NIdR>;AsJZ|HO>iX8lR]h&xlI7+HHSdAJ!L*&eE5L%$TetXK9KB924OjGG=86v!.F9c(3b)IP$65wUyy[F)gO1Q~.;7z4X[~efW=V;q~1SBNfOexRq~%j,Fsd:tw)|v|4E3nvOdU]_bM_FAv5ffrYDZDz[+ZfU|$.sXr!9wr_@v7TL+|&AM3|[<@yifqc&oBkw2jr7l,SiFtW,pwn;spgD,+u3=]5O7;gAJE%6Znv7&.tea&2XtLc*Fyc:*d!GRr:VW&Z]P)AsF2&@;O_S1a:3DzaBIjQfh@
  HC8.)XK|lU@53qe=!koZ:_X9Yi.jP|v8s5=~f:PT2DyufMw(7l<@MU67lLL=WvWCClnH_6kg7mAcW|K(^cs^h3WaO3<AzkQ3,!zS)f(^|wB0|J593@2o6fVVayBA7o&D3B)lFZq&%YSWz$:Nzwaz_5yo)>WE?&dlPVUdm|G<@maZw=^I[[1(ghLs]WGVxgTcO$T302:_D]zL2kGT$c%<fyVfJoK=Lfea>q?vp%MCRTID8s9lQ,_C;NGCgNDWX6a?4uRuLRx,1p(+QSwhBzv9~$?67$Q%m<+iA!SR8M65qj81+Tby;sKQ$_Sc||nmh(w5+zkkWkdaa2.=UD,BfR@4m!ND!9CqRmgJY858CsJ<i[kKQ=83=S!TSLr:TI~J[0.D23>>Tl8|$U.69qVdfc0XC0<la,Ja;e0xaN|THW?xSQJNuOjiFf6rnz:TDSJNON=YRu$@!(;ElmGtR?(0T?o!fu[G%b;@l;XN?F8y8?Y]]V<vkxOMCBXR8RAB]hFpA)s)_ce)8|S|lhO2=sC@8=Z+_xyQBif1SUzYI;D(Rg6)ws*uCKm8a$r<o@g3+ZT7OxqsvhjHfAP4VZ?XXcv1!;^1)R)ifCbYYWI*.eD7w]IDAJHv3y<t_^qaW)OXFwDzpMyTP*F_$p>9=v|Qc(nDK^Zt)r(hYzAO11e3?Zp]Kc:*.mNmEpswuU3Cm(+HgR;Ufs)h=mCNVF|6Kqh,$;zuC+:;q3Ye2%G0gVbeM!NfeQ)@)5>ZzpR4=mB~T,!Kv,Ry+yrPJ.fr[87Y_Ig&6T7~>CIk1H3f3h:uslQfastN_[Mz8N+Y91toXpyKU4AY%>%<RX^aw]_6;VQ++fSVRmV.x^[=c:Y7LbSD0+R|0GE0fmhXVB?H9o[BU3|F_yQ@mxSmNiDq||NAZbm471Qf=~n?5a2<H&T2A;v]GSSX(:jVr8!tp6RiV9^<U2l=lli+7)2~$V~uisUEV6$3X*<A%L+,*?@@q%cy=BbV8i,0?OAo0WOf
  L<.jm3H5lI;667M(y.$gVA9nlV^F,6sDWxm+;p?RkvDoEK>o_RQ>f7Ydgt><q:7uuYrl&=B0Dm|)IdAsIR;|.gyLLcWU7;+Gv!3FnwO?*Uj1X$Y]:+i.wr:InRjLcLGTXLPc2|Q.gG1K_*OnC,gt]^9UOyP;G;)s,!4QBITnO1>rPT8ZiRtVIMlHRBXxNgS<zgA@7OP9^O;c)W7[Qrl8+QlT]XtBqWl0@Sb!6I<Yn*imIio;&JzJ$]oRLzKNDLszT;.L|[qlQ.7>uT@S[pgRD:YxEhdPKTC@zQVKTZJS,g6A,>2WTD<=:U5@W57H:H8acgkn2>ULXBE),0!1QBdpH^<&E%a|lYar+fqVZS%3o[KhfSCuqUs_B[Y&CjU&Er4SnsSczlfTAB&$=@+[gB5=zEtgM&NPQ@gsio$v;|4>;8lSN&BNA*5ib13N7>~]4_$%JYK]gpfy?lq&.xOF?HFtMhG?f+[x=)nXxjBt@Kc5yMv+<dSEr;cS58pLEyd!Dr$(Ms=!fM,p~W?)q%aYA4V<(2O.0?U&E75!L14Mvm=v7HnUOA1Gs^gLn3zlv+?H)~rGoKSszvG[Q.40&::0Wp)(+N$IheHqR%T*^h$[9nOiN4HIL*EMasSqP;.SSn*_>7bW@+S&(&f7@*Xc&+[~UZiTgRRchNHnf.M<&O7$AtXuKTH@W(vD5:H[zLggOes3Jn:7jMMsYk+M]p5s)N!ZsS[qdh4_fteq73t83fj5][L=Aaz:^q[WrORw>N+J|V*|9ZDnreDgIPkxj*UMNw*f,S,M7wHtG,qu)eLepyq^lM?_&vI=Iy[WTLe(=(cnC?RguQt|oRS(|Bm9X>>j<YIWK)(RyzU4&[p<pHSmQt4=QWN9rgN&1SC0,$oSOHsBc[6(>9Yx3fI9t~l~)vwZ!rFSu+V7QVnJI(Y>~%l?DLf2Fas,OMtU|_,xDJ^sDj2j)&TIVm28(85@8<i:c^hv(rlltH<=kudNmrS2tX3Zq&rrVn<%
  qwMSwGv_n1rv6DC3[bsC.A&@02Hj_:L9A697>>]P]n~[=JZGlokC$EBZH^Bt>L7|t|CFSlCuV@]gm.]V+.)U*pNi<jPE1r]4w[*>i!vK!JDC;YdQ.Cd]rxjpo8l>gdudIjL87?<Rr;?e_M*FhQ1&h2Q,%tm+1.)xX6O(^$hvR[6yho%3M[jVN%lQMhQ)0OWA6aGPdlm6%lP5Y<D33M|]Y_w*Auq*L<wJ)*7fpa9o.f&HSmySJQx5&u[@$>KCZ+jcTsikxN2CoMxSxD24!eFqZ,[OUfx;|kHm$FI;IIM$FJY4+hVeDzn90JkI,oa@)digE>8bC1<<9fc?X_1lrA[z8O7jYlUSNdSS4)e6QW6oft5M6U|%r(:w:4md6@JnVh.x,nADQr%$r=DD%gL6?R]0<vF2BA@2(S^K<AKt]^ZT_syOJr3yz1<pKAwxM@s^_wQJHy@AM~qs[>cTGa)xEL9d~PEkoS,5;L!Inv]q0j&A,n[KpGf_p=aZw~l]^fKy?NT)m49JAgu,^r!Yf_0n&&yBN>1+|aSF.b*,lz0y3JB)I!!Y7fmllT;At+:ZTwXJAmyMG+A:XsW9JDnN~MY:v@!leD6E$R?bbudh@mZDa25;AqWUJ*rYRjpL1NyVto?Aw?k(WHaua;I,slBXli5?tf6m:aw]_7fZWU=N;vD~Do=Rxn?*9CoxNcL:V2;4Dk%cO7753|uQn2%%UlesE+*o%84_LgY~q2oVZ!,oKVopXuP&^2;tYX<>9=gsKyM:X&2c3H6PlAc3D;szh?oS$Nr$K3^BF<2C@oFPIUTpQfXduh0_2DhG*7v7h!q=*+G[IRlP+rSC$79P$cwd^bfO^YmF%;S47O=EE?vrlHo+<ek*a4RT5lr:xae(M0lhH<,=o)9Sb<IOwxpxKbs4@_Xq0L+tx.+Y|ZZ.AR<0SXrFA?LFHwV+Q7IuomQdTHDLoM9YzbgUt1d~g3jB9BoFGz7v7G:dQ$k@.ES)4>>C1jb)91i&67&6
  EYx_daJ!=cj.f~6=ftWM,:%TnP3?Vh|Nkra7NVkQs%%~GVBm:vFri>+X;%j<VwTBjo4SutzX5JxBx_iNh,5XLkALN%Gh22wy=!w^^jd6&Sgr?z:]BJ>o2N.c)TJ5f7?nei<<@8p*EVN8qjKppWixTGH;9h1oq?Uk1U9lKbQ*lSlLkr^2z<]o7i^4Z1K,]?DR1P$scizp~XB&<WIwi]t=Tbl^lI&?dNGC]V$Ni2r&]z)U_PB9.AZluN3C^rK0A4m9tzDNZ^WNDd~zubx);>w:_%W|,,1*ph*O5[9v:I?V*L~Uq;QmX4X@hj@0@+DqwkbSdcK]C;?ac>|gyk)Y5jZ]TG7SBpTd0R33z(ch~SRpCZY&yEGSb.blyv)lNl~,,FrUbm^CO(^%CHoO)nTeH_%ONO*xHV*$wN.0x!ce%4R8|3MpJ+DLf8T7<ha$)%@gppxrteMZd0,EAn>vl?Rf:4qhcd2Y?hfj|D;f@w@Fa]5he7(2XW0V.Js?NsrEca1pG&T&%d0sN9dqiwvEwg0x%~J]_><r32fz8JqMBpDbek5Q~@%$<Q_2a6%uGM_f*n>@?USdZ.I?q_$A[%[Rnc$I8TIwI>1k~g>a[E|TvDI=[Dyu%~O:<9Hi*qhFopVz|],SPbJ:e!G0g>>G85oW,wAa|F:x;K@UcZ;)W=[*axSl2A@~i|b.vka@vmibnLtzwiKZ9=>GOi]LAg1xZ?Xp))v?A<I+~%Y)tOKa_Ch<*iZ(M:iHd85f!F[d?W<:SCOU7XRmOS<.1m[<_qQep0x3de2D(h09i7sT~+%1sP9AzfG@~(7z$(&=&xtU4%Y!I+>R41G^bJ^3UteoGlUX)h=]=<=!~W*&bQx5RUF6u|bYXxsRu|3I<9@^*wwwtwB_pr^Nf.g;iC.@V%0xm)>(&OHSL23eQd(^Q^Vb([S|PtarwB1%u?!GYZqF[XB[@c1BZ&?n<kVc1kexb~RgFFw99IaNK0Tsh7Wvs=4Bv&^]HT<QVyVgfM_v
  kd*_M$QLCNf%u|.)(|xnpV0j[HBpAv1Vwb0Y:Sg)SI5MA3a&;,^2p=AuS2pMfzw]8W)6~FG~Mods7Oq0f1X4D^t1j<u?;hEK<M:&bBAf<WSWRWa&x:t)5o~z=(aI>&~tgaak$k?tv%&kTqDaKW6OG<h=hcEMe7Cd4B_PBKCAb?s3Ny>j.n%NS8_0U(UQss*wu2)uIH]ZEg42lB;&$1v!pCYz=~AZEPG)s$3C9wZc%.W!(G:%Lyejmhhv&Wn(~ipK2F,%5Q*AZvi[<i7T3k@qDE>j|j~koopnxiB1&1^?fKSgGf3dGMTd_yXTV8EM%@igvO0Vu3w!C8pgA72qx%S!HKHBbKd?bl]m)*9B|31FTf;X_T_5dh4;E]]=S=bjpe^zG3xMB*2Zew!F7%y;>5%?Tbz;!A_vY^O@G4?W8+ZHN*bzk3o@K,RBrf(54+oryKm;D?Fw_tPD+peciO6XkKTKr]I)%z$9SWJ*;zi)Af3g15UAoTRB4R+1PR>W%lw=u9NR@V(7Om623Wa_5HvKT++Z(K<sF1F=.Cw*vhQyEbr1TMe*C@Zo,I%me]Cx2*$j3:NRj0~C_KKmhdYqK>b+=.8H).0Qu7Mx~2mo<m4V?gUf2Pngy=Q=YGSYOHd&_UAW3HTA5B4YG(vQX|MBX8_EpKAw6SqI1TlxAPE_.ktlcNKV*Fq45mYjiz+M;8V&R+0^SSYa<Wk*EQ^PM?w_ph$$2X.oh?isQiY4WdDuCg<gGvTIKdL0gg%10n;E<,rNOZ8$EzEVxwRXxU=7VVVkT1Nvn1.Frmy!W6>]A?+7^LQG<PgWj_kOHlr[>A;OhCl]aEd$fUt|PD%c.:f[P&J~uxYci7Bk|tE3qDb4GuyP+$8cLR!1<,N!X9n~t(f*naEsFGXMzi^7ad1;guOJan7GbMw(*cB^WZlM<*zb4Y<dHJH!Gi5HG*UwdEO>7MAWO(TM;xpx|~Fl7]%~KuFx~r=5*t?,b<uMC&iI[em&e^L8dl+Wt<az
  7?7.d8|V,Lw,4Hdf6|sO%^P([LFf$tlHpB6VtaZG^E>gS)e;P<PlxSN_)|b$%rw@OxTLZrMVLU$K<7CU&2!T6id<TJ1mwK96NKCJZ)jBDE%3fprWV[2FVTXk;4Dlpdot*9La|N6tOUsLzfD45!6[40mxsrG2O*?|z:]f4+cCEu>k57_~,7*a^V8;npj=pclY.3UWU,bD^ec~PEyVUeLTK*!OPes*$cW9,Z5Q<ni*,6hi<]*):n4epP?cGFg83[ns:%*|ExG~5Vx+ex&DD:;BGI![9OXPznSpOrscnA+jG;V3&vZM[iVqae7%q;|^lH4:TblblxFDYTfkA=2_bP<z<SWP[m$f+61OME|vF|_^0zb(FJwKD>d<*yS5@L797Y%W1m)XK^!bi,eI:Oh1^h~P8AKN)&O|Roa=V*!)TNULcOtH=f[?N1a.al5<JUNPBi|i,)F~$w8GM.>XeG,Ag~v)cB,tK*%2pfk*7,o;=2t+KI&I^2=aqN]$nSBX>NXCaPd]QAEVCuBe4OF>jv.A):FpGxwF++x1q^l&3(xPAv~js1~fd%J$H|F$y7UE&jdZz$P]fV5>:@C*UNLOKHC<4CD%r!P4XX0w@7X^@*l1Qr4P%*x*5^n_!+$w$@ask+@;w;])S,1jD)_&akR@WhGGGI1Rc)@RXi~s8j(!xxl)8EbXB6j4WJktUndc;M1V&mFt6k.wBzM_Zq(YrrW8<m$!(w=Y<%N_0kAVerB8aAW=uGl+P1T$SI,uTa(]hZq5MiN3nH8&;5yX3NV?Nt73jwCMHwE1UWW3(1l^t$Q^*y8q;A1)?x?0&3lG0>Q5dc@s^?HmeBh^L=d|HV!kqT0RXR,lcG03U><WFOW|hNA([HE|YI&6|QDa;fmsFqSf+<g:PMH$vc:(f21vFf5pm@Hu3qG9>GR+1iVCm[g!g49Zz%>88O_$28zG48.wIg+kVL0hA4umkHN7s@EUtKz6bL)*yVTFnGIqS&yVwH_]?iU+:uy6d~6[
  p(*GD@:ladgK,Ry]8nD+xF.|r%*dUuv.z4>S~wD~;MQd)TskRh=8<..3Ms^5N)h_s]9s&|$?+aS,XdDRE=%ISNu6ISuhpH~^3Q$AzA9gWw7UBvlPT6%0Y0P~YSp$yXV,b<;I~SVlIkfn9eoFVgLm_ZAqSE)=J]D=bhvMcCtC^2,^0[wnC3Z$XXaoxbMyS8[ST.%0S_5gS]0VD2_ACa~mKk)szRgHA$K<.m%Q_1Bk8~I:U+=5ipTP^HP5=$BA&CN:)kdy>kV;)Y!6;:7t9=<kHUiRt]JL.M]G&hh4D0Qy:S[T~oDiF,5HC&IY2A^9GQy1SIb669Q6=J%Y>L_OC[rCw.0$K=T2y3YzA2@V|OSoI!HT$hBI]*>H__]w>;oi_QNtbN6&D4pCgA$7p(j%i5[[iMKF,0dKJmwszpve6p5;@XYb^psA0*3BP*CAKVXwB&7]u(1Y1r1i,I^iP?r[7GGo@?@cl:g|R+dA607PgChjw[9~mw0B5Gd^X.1Fk8<:C6iM>*vrITOM_tB(QfV4e%8zjU0XgakjUi,UykbdDL_!:x)%hmdmiEFh)=]$BZz<H6yO]wh*23Y~LYg2lG3WHwjC0.4dCPZ.91hz]us;8*k~6>fM2wcO8>trWYWWHdjp%8$Pi_Y=o[@Dr3w$aK2Vc:fb+)SCat;[jYG8lk:>yw%<B707=ps6TXo*E|xtcZIGq0;je!DUj0dN!ORsgRF6Pn%C[^?c5%%gs3q[,QYdXt$NBXpxj.GvuJ6RDnKHf%D|kG|)dR,yX(|lK3,|O@@+sSdhArvxGecxx8Jubvt$HaIX>H5zDY6c8K@Mu,W~l$*>i4~Bh9Qt)3[:FREpNLjJgyatw3@Cw|i!7PnT.DUGRDpw>f_,i*1ql$(6K<$mP22zhXiS52EDQYx7I8]M+9BpkuEtmp+&^IZO]M~x1xho7BI[vDM2LW)m5gUZk.34$|=G8qm,ex1d3q2E(=V=?rpz(NrPaQP[Np:i6:ZGoz3C|F7w
  U=>tv8eXJGg)(ZD<R]KS&.CHw56had7O!mm^krQC&iEmOc?uW(|ew_g=kn@uNW5|21We|AGO]Z,<!+q8L0KB5YxpohkN9[FI,DvVBHd.I_]ip(anYdX^17sc)RMD%=|nTUMkxbbm(O(gzJJxQbYNio[L9_@A|x[MCq1:4DxP=FzN9Y789%Q6qSZ1%(OrljMa=5H|4)n33;?RDDdBh~phpF)+$sC4,,wpK|ugP|nEzw2v?WoM(uD3?6<d+0FcX2!CoOGcQbCpCyIEuWI&mJI1.PrC6%KFv<56nz%xXF&+OPM!P:.mC=!^I|q26Tz?DP453KIdtGwNNwq^;J$Vyi=3F;z0OMAugZIXhIVnu_xd_3]gRib6wXPfCFQT*~Q6T+5[%*fmPZ_uSE!,Dul.B1=X~VATe+2B0Jp]:bTRcIRC1MmjquPeqqguD(<$<wiz9|5f)%wvc$;JJ@KX(ChY1W[NdcvqV8[TM!i)JXU|Ze9.[j@s!^KxQ%4ADjdWr<|KqYZLRP8:Z!x;I=zo4*s!Uq|d*Rab~9ZuK9*+J]3tz6ji^gEG,f5.LXDyvNS)Q(?qUjIM@|?da@y6<9ZG1Wk9D]YI>&M+*5BAuDG.JM([ntu[;eVf.lR*1W*Jt]mCE[foFs,acoOa6wk(30N[ZglGK^N1sP)O3mcJ%2Bz=FjY+oulsJX10z6Z:F*0:EZ^Hw.l(i>BHed$^N^3.Et*D2:rPm%M)gpTZ|$d%Wm9w0]]ZAPn*kgIL%HxOFI|xE?J+KbKzsp~F]T+AhqP9zk8z57.0JYDc?WdS^|mkecxll@ybDoqoSuaxaxLzvFHCMxvoJ@W8AzizlXudbWS2k466$87AdZCW)1agYZl)@w))*Y|uYF@o+Q@]>~sPoyeQmzHA_;&M9NHRv=2N&g<[K.|7_PxQ717LE]RGmS.Y;&CsE~yB=Jya;*b4+o.quy@owL]bDm4I_k,&jW%q?9VD2^TRO(710@&;^e*EbBqB5Zf+O7Va~dx
  O7EVnrR4_T(bJSBV7XiJ,[44ux3U43LF:W+!?>Q!PliNG,N9+|tIzBwHd7I],5G,H&!|3bLo_kQI4B[v3Lj7h,jSmj,gxF@dbCEsK=Wmh4V8aawpk8,W$|3BB(4De%LA^F26bnk9(QZZ55>;(AWec!?XTa*In^pHBJ>Wm$;_HayE>usx=lPDcreM(;$(;^r:@1(.gWsm$x:1:Og1C]Vyfb!<,CEFJWFsXneRw%~82;|t7E1)LbKFLLiaigas,!pp%bv]27=[1j<fiWYT|~P|mN4Uo!xK3,b~xlw2.=.Wf0>=Bu0yOcxMG6P7,=5Pzj0bSuR[0G3bqZB[|%dRdQ5?N;G_1!3_B?=v0x@Mk$fy(JJppCE3X?0N~iAc)y3A@2BM,RA>*pWEG:HaUFK6;,;%Na$iB@QE.UBrJ!b^RzplPE0Ois!FQmyDOmhA2k)DLFyq1<O.UgeOJcd@BbP6%&At;3:SS>&yoH+FatzT_|3N>s;%Zy7xq<t5bCsR*hLU~m24m1iVkJ+qWuLwpf+BmE&U<4VPK<yzhkGkDR*Jl&AGZybL)B)[m,xR2fr@]D9F|4Xbjsdr3A|;&rGRb_7G<)X4v4>41NNJ)*(vi%ZPcLfoo_8&PU]=kd=.RNleuHaTHx[Pbd__4~KuKC~:8TigjYSKx~l$ZZCmYUkT<VM[rB0U0;VYBYeM|ZvbqtTk=i)njfv<;,!sXOwOO!U38xOZR|,>i7t@D+Q4[>;Lft=ZH)a[=.gU|*kDcd1V^shDI4wS5j@8<GoznjnJAA(tGf*O_i%y(evrI!7Kmy_s2UYIc~cLtuqH>0(;TFlpPR]F|%MkHAdf+12wR!=tnF472mH6%><rUg~8(+J9[QTWw=<]IZJBMPHntpZ1W.?naeVHVXTy[p6^:T~l!;xQ0?f8OzCmRQ~(ripvJcqWgxxy[eMYSO46CY=^o2&XcqY]7!_XIOzqblM:P,d8p.6wmxe+y]aF*~.J%_LwoMD<IzP_8uaRZi:U
  kP3I!RD~F1UXxxP2LF^K=z<4j]h>Ffu]QjJ*5+8j5>S%9)(MA49A!K*vh>vuQq=*Lpx~j8$&Eh4q0E4WhSp6Tzwqnf;UU_cC~Vo?!wO=<j30ifSt[pj8;,tu|ax(I>4[^t7~u_zw1[^32&_^[zHAY+z|WH@O_WHcySB,<wj+k&];L~C+UA>aeaJG6(Y[er^EavBL)s@4<uRl[~IFx)3(O6o@zc)TZwFL(,pXXnQ^@fs@ulV5jLkf&2F5th6]Kg)GDuR4y]34]=&(5gJt_t2dm>0uV@Th|Y<hqiTRgbS|ld6>;|7.z.TW~%Zow:%fL9)cMXce<5a=%$AVG5s8IlJx&T&amyVsBf2H1,%xnIT&2fSb=b.m*tG4T<NlAbG4(DoQJ~]4lpz&dVZ:vSdFEE)xU6d$qHvET5s]mY0.t~]lxXH[h.^Ku7~P~uEgbbk=c*k1&[7JLjMZ>2J4)rsi)Fe&k~J3$!RokbVE?~]NngpY5SRz.Hd|UfT9u~V>(V0wg2CtS~![KjHorl1Q52$vt6a?3X*M>AZ5f9HZ[7u~>7AbtPm?7Ss1(Sl:)ykM170G^vig005lzsH=]j.gFgej_OZKXE5$=y?8[zO.TlSf|x<yFG*A|<Iw>heoJI$I335eF2)l!iLN?1T8ARpUVKr%k(qL^mNYfU;W&zvet3k%VD84)YY|WmFk*O)4CvUrq.1,aoPVtJK$zJu[?~t=F3wfMUEi__AYQTkLd%9AIiNtxg[A[HYo]s[5p+b_+x([rK]bq+K!A*Lk*sv;rrYjoEa<Z8hDE6]sCNx8c@+x$kNPZ<gsjJ?:[f5Tb(!]Z:X+s&xHt|_zS*8EG:~$WW.q~gxNk9(+c@jEV)yckplldDk)XY_xx~hmOL&g.R^MN(sPrA64HXhw5r=@GI!LN<MrFKSQB8zA<]S$&0q[jAh1aKt5WDuG|cVFb9L2mj=NRt,DQdYMT8_U7hLypb&nJS;7g*Z>21qm&.UpcL)EQluwZw)$9F,m
  MC]~|^Yyr;y2N:MFUiZ*aD@^6rd?L?*RT%,F7Pc4Y?xnQDbHfhK9I0wtw5hc7I_RPD)YDCq;&:SGB*H$ZWd9TgP1rcGFbQYKW!]5NN=0>;_N.?6IBtZA&cDk&bCd5LXhnJZg.0cMl&&?P8bck4rwOcRsBZ4(8h8e,15Lz4en*KwJ)Ple0TkU3fiOj@fY&c9C5RFu10Wpiv=Z~4FqNaj@@i^V3.~3Hh*d0U(OI0Mew(*AYR8EP&:Z2l<R;&:f?y+VFYzdio|Z>5LAk|1Pg9=UM?&tX*J_d[MjKmz%ecei~tkMZ,rIHetw2+Z7kya,*!rF!NPlWAIv>kL^!*^1$i8:sIh2VEK!Eme_r4&vloFq|G_[fAAyET>7fvRoxvXKx0CG]M:B2t[cT%%tWpH1*kk$V0ML=(osXuJU6D,2A~n_EXvz~iM5:urp4r]<J8zvd>w<xsQRBf0ssQc6TYh&qK1_+[2q8Qsy0lQhruI4Eh,Z^]0~P&I.rM%nz!.|[6sv%<v~d71y@[)[P7eS1N1VOp$;7>Ji7pA<u3HvNyRIPMc+;y|$J&i;jR^l,V_:ynR:;gd*up::(h93a]jIvQ=rvVed8I![l<K.P]VEJK*=vN0B8P7fOB[uS)m.q;jdP]@@&86cB;4yMl4B1ZuKd?8S=SU(VW7M)2o:8rhhVv7k2%OEiAbZ54*Y3ao6.6jTx_V!MjSbk6v_Sm~+QRdnJ:zdAxwZ!r$C5cV32XkVv9]E0>T%qwDcfjf*yOrme=un4GS%1<hJ).zDVU9ompoD7o??c_~Xn?[Xb;sfz6*Jdg),yNU$fAWS$tQ3lI*h!~mQY4m*kJX|z?<YIp*Xowd~9BlNqMYe@$H&+4!Z:d&9=!|qkR%oiiw~cLzxw![[zGk]eLa&RhfutC8R36?lU2mS:;7)yuA@fl5ZwVacb!JMX16=hyd1kriqhl$w:f:;4s>qwT):&b^tb%i3q,=A;J8SP:R<_A!wx;$F@~5ry]Tg]PUP0=tO
  dBBG>[nqUaZ!(_rv+.,~c.>A$ne>,%xtcL=lT$,dwDIT>+Vs.]LBBR|Uc?~U<ZJu@YG]mDJefaK5*)n&:*u9F6fT_lq&,ug8Z@JRdR5_qGmO<xRjj:5c5_H~2p85?_qOqp8C0;.;R6jBsd<b)HYIw]nu$Av9;[zvqLS,1s&vpnSBC&;zzi;HsIMN0kc*,!tN_);ay^8Qr6aXQlPUYU34_Mt]0|G=>1n_%E^fJ&~R,J.5TC4QY$o0Q8*9KZW&eL(_[~o<<v@%7J10>+TgepI3xoT(xIl@S&oiB>VARl2gFT@_O;.MtH7laxgZr:Un+NS32&%YZSX;]JO.GH<58>ks8LTT1%jJqT^^_i%7|wZj?irQ2YN~<CC4xa@F$d2iBTteMN?8F$f62Ifm+pd~fDYQw?xcfu?>IPJovM>;%][hh82JJx8.saV8wg7bFk1SG7RwnmNMVO0Ymp!O?%]Z<tQ6qJ<+hhNn^2pxT,u|FCnCQO30e9vkGP[&ptWcNA[6q~Iqlhjcn)*5_IU=pq]*m+uO&b)oJ.^>cCLvAD1,@p3c;p>lk?e6gza<7VO?V~JZ8~:VQCCPsCi7$aw4A4[*rb_f;tdYMaJ7wj43oDe(03hxTnFn,ChG<!jB3L;Wmi]*l:nGw4a,lad3y$RiRUW2Vn[0%N(MUHTGggr47n,VD=!Sn4iwI8@Izmx?9L*D^=(RK]!s7q?_@^][3Haap+3!X[TrL!jNc;!]xng|Av)6Gwb461q[bHw(H0~yw>Y]3xHLq*I8uKqt|!r[9N?M|Z8I;^]2epLt?M[zW,:+D:Hk|m:Yi2yz$u+j9,PDsx^3RsiSr^7lG:xAx7n[ZAhD^=+lU.c@Q$msD)$!cI=TvELE3vY~jL&8:=DE]<uad!J(GQvnzYE>.(>fB!aO9=cvmt|kd^%+rH4r^_9rIX]Rm>e%(?5QJoVw;EF_,WzYNJlar!mm_zz%WGN%j1L8GGmWH@W|tBQnGY;[TkJ8F(J5$_M;QT98
  97E*H~pE1mn3Ztv2s0q_4|<Lkp62cftGs^kQ4i]?Y:suNZ3PT2<Km|J*=jdHB;>KH)W!A2U.Bi=iV%tl[VB(g1:[Bh]fy2+C+*9^2VB+l8Z=mGWWy>Fi@qr)BDO:K6SgAaB4AwDP,gDSI=mv1kfFU9|$wt5657SLgP6AZ._KAz$k_P)&0pULV|8,KC0mMBE$5pY!juG|y_]82B8JLs:|z*(q4FfY6bx)++]<!B4BI0hCy_Vz.x<6ZuljEH<a4rSLA:i[5.U_^@4nlgY3P5MjV<HQFmN*c+H!w4Y|axneH*al4xqcAGu4qOCw5PMgB8^1|j(uPG?3*9=0B%,2rQjLsplt1!zf^:.Q.)v)_mMsTeT!%_:iY7%u_(g7)T8Dj!K+vtVsj~wy17GpZuF:8=6;*s<]T*5zVMcKNrC9J0facbL^Ewo135Em5(Mk0:wUK8ebkdyEZ3x)D,iL,|,cexjFJ$rl@Qp0wBGAZ?!0Pow&hyhfQ).NpU[a$!zuKHl0X_=:,O1Weg$el,<M2>|z>e1<|86jWYc2cK7Dfi@A68s=BR^_DvyRhir))gfigXvZs4p&JOk:!4R<CZM%wQk6>Q9coVU)6m4C=Pu>%uisVzUk8z).vsVbE%2n6fXFcY9OtA%kBL))cBUDCBd7kvbmfE9RueqJJKj$?DY47NsT,l]T5~!s^)1WcwNpXaOffph3pV!I7cM;KY9dVaEuK7ad)m9&jp(PAOjmN?|I=jY$.t.Vm%g_D$S(mCb3T7,F2<tP5El+(z3bPmb$IY6RN(gJBzQe+Y7aP^i(_:~^OS$Yg67xZlEv!Vmoedip2o!+NSZGL]n1Zc;~<;&6t^T($yNCBhf>WJq!ezt:E[:6~r)g99,O635b%uWBZD5U~|tXVV1N5Bu>+_bmd4Tsz0bLAKq!54Xb5b$9>B::FmgAV|k<*hms%vO89COSWRfBleN(6(&u&vCeHM@d5PP,+nOJ(<xud=|N4)uo*Jl2LCXm(CCl,cG.
  o:5(JpL%Nz??;BIHvd2LNTV<znG$zN,ujVPiWp^vGX;h*Ad~>Dgb^^o0%V)LvZ%B&;$OP9()MUGzSN&vq~5(Ly]AdQG&8r9U.zzbjPNm>J<*_@8H,CeQvaaxK.j2l*nT^u!LomkSLC6<V^BWbPZHQokvmZLvr*M>JPV?7)5JSMX%wqc||DGH8OFZ>&~i?XD5JN9aYyl+s:?.%DeG8+MNZ%NQSKb|*BRAkN?vqUWH>O1vF|vzNKdq:%p7H7tW$*cq2vN.y;YlgL2!Mm~99Rm+qKH^weT$~B)rqKK2<^EQ2.O2%^OmYYlC?v?ZKqh!1koni^Uzv6t%AR![_dlh|_YM:1km6k!y(XK%0DYPlG1~_LVZu3MouF|+~U,)yVeLZJdmn7k&hk)taTN7(xuL]yQ0tTtGd:n[G@1][=0_KP0xaLlIa4&F5VF(vuK6h8PG>MtLC!CBN|.~CZQgub@=T_2C!(brgn~5Xxv.J@N!v,Vs_*J@Jf7BnW*WN9:8E&1!jl>4*n3@Vg1gOjDAOj^7HUHDn76AFVczrY?j9uHqT.h@MHn6lc&j:y~qn]5i5B25anoIc)]~o~9@G=$.]Pq=XWH^^,bk&]E|R$C_qx0U~RXS;CQ*p=3RMQ=@1j*;ab2=t*w|Erp)W.mS>P)K3rDm4frk]~1b$Chu8]g:bR=,G.K*lVP&Ba0A$sCD8on0=[<xcz]C%eYt^6onFQXa=PRHj8R]69NPtqV3ntG~V%LElXGUZ?P+<PR1HM(:T~$,lxio2UOXIgNXZJ~C5DW;;]6gUhG=+Ywn1)t%u_2K+$d;IoDI6HGp5DKhY)K^KOEmDYg+E@H)*!)*$wTRkW=j07)NmTa:H4v0As17jg(_|4x6)zMg??OfV%_jAdJhFeLv[]91jm>u!dmLBdvvOF1!HCf!L]1!z85:&WQ%01guLEa6G0sF,K[K+>6[%UJq$H_mW;h(eMXJ+~AuG959Z8f=PWJb8Mp$Z+3+@3_gK26+C<rlCIaL
  _vjaorGt?%;S&c]U&![mEC4JZx9%6hy@q]cL*D)NiteEC[:B_:xU_@F+R]4+~G?6z9iuh<2hIIhvGLQ1u|3+|ag+S2@xI!jmQ<be~uEU!^,bK<jBR9FjZQV:;K,Q:=CfItQ3j,_6ro;_9ayRwLPa6@cc;j2,dvFtI5f>I.y>P@AV:n9_$Tp%SAp1wL26II(+o(<|V_:vmwJ5i~,r9AK8O_hB803@7$yRk@D?xZNq&T*[8]H~X:=X|llljAgcypRD9y(OgXUFn~RjGra$2o6u2~y.U%Se(l6p!*crnfj|_LrmE(Q|7:dGqX1kerDsLxKJBVn7EQufb~cEL,>uaKGz=|DZkcxHEGHWPbqMb~Q@nhl~1My2rN03c~]3_R|@iITpkxJ>@g6wFa^,Uu[B|X4T+a+o,ovM^ZUqDx%Ke|1M6RT4H*PWN_Ra+F%<0fEp~CeD$cYe~TXd~4R])05f))9E6Kd*Jmy(gBeAt8DIiKC~[lVy+o%*QQeQ3CPtE>vD9;0xBdBQErUo~0=@WDae%ZTA%O^l2;@9,^UB=m4E~*:1m!]7;_401DHHDo20e<.=AI45Bq]mHX(i=_Cz:Uyp8Zen[(LBq0|<sSQMGt)!dW,(AEU.2ovR1nK.7f0:A[K4O;A+~y4_;KQcqHm=VjeWz;Um1S3PPq|@;&0s4k=i[Nc]mhU(%Rv]i>dte.m?XvC%;TN7b.PKI3aAh?fB=A;|]IA2~%*:@=V*_no+FEog;:qHj8|*qT~+c60J;WBRZ%[;cXYT?_:OCf_omuw$pX<jQ49Rut.0xy.6jG<0g2tW,N;OJ>7w44+fi)SHjq1]%jCSW2jF4.Q|>b(29U1@^YBk4p6n5D,$9b=IuDnw6tC1,L3j6kYR)2caZdlmz~*[9]J2ATe!ntU&!V,k;:cOor,&@;G~*uI1kNtS)LfI!4&Dy,;;Y2jC|5vT[Ys,@%I_]^NJG%QxGTu),LI(y03j[]QRSz10$Xeif2OcNGS+m6Pe!>e1
  piu6>VXsDa3b<pos^pwgG]R(ug5F0.7P^YN0HZ^h9eg<qUBYsGna+nA0)E_wws!m%t>(LKg$HF=fb(Txte4bz3)n5jXu>0[Wc7P%Bk1_gSb7w9xEf7QheRK8UJ=ckj$4nPoXjU@;O*Pivv~1C^1GUV.t(]^=IRSkz(X.g_oyc5[Nw$@TE2)X)gwj;2E;@z)=teBXlMF0D~;@$5qcfA]H$KX?)X1f%zG@u|c[kn5!:cb_VvnX1?fN9.z&%|Q=Z&uR4oM6|,=QicJ*;NmBk&(FdMh7_FCjW.9N2pXGwJN!h*2VL)a7q*2=0foZK>l9;[47o$3([bBUEx04:Tvo]zAX?@f~ARMT)Qgn_*l01RjsEAp4HXHP^A0F[QBj*pi<h)41r,~S5iEtVk8Hs<(u<t;&,aS@i<$r3ETo(wc!P)_sP$ILyG+aOf79sugh@(vL:QdqV%W|ym8|Z%)iE0a(ftT|MC1!Q!OPt%.,q:6hu+)^H>QLg)ntBeYRzyJXUzCiR(]xW@XA.MM8)noFdRAgTV5c~Qbus(iFTClhatr]c%nw<e^v(^X9pmUxNoy<VMoa8)BzNioyE)51CsKCs36uY4cEf+czkU3*UutxfoXkb]RqX0AUR:W$95,W44Kg:zO3EfrKgLxj*X29eTw0KC66P4B!icgeRrFf0LePs18%etT=T8Zy+2WUe5R,m?HyU<BG5s4hf>L)(=4bwLWpj.CUt_.%ewH?8):KtSfBXctb]D;r_3.I_&ko14T![*V*Rc]_Y1dVAIzn+CM?|26B!pe3sd1D2eYobf[tf5GG:n+%f:=&:aNnl;Nxaf&*vbOb6laSJ.;h^S%nthBQkE@aSH1XJ1DI)Ix0U5woB,cEr_OYgu6e7GR3gRx=[pGRJ(7HADl,<Y$q;<LL!?(~QhM]>umBRft3)Kp^s&*_q$rliR:izbZ0(TN@mIJL]]%dHH,U95wK4bZW29)VIU,(_?V]BqM]ywr3.W)zx>UJFq0x&vg+Mz7K
  ryJXDKHsQ6Kdf282X)<,QI)h2~W;v::^[,iuf<P@4,QUaPp=(wJoD^P)kv;%)Lb:ql)K05ea2XYYj2taoyoQ0?n%l6~gpo6G)eU.(I|Tjv.6Tu|FZ2cNcGq.@B=V@vjD~+kz,V!N$?4IalVq671Cbqbiju2VIJ<wdYu|2k1s~Zz@7eG+O57IJ.IR|fP1IMuc@@nfXP3jMVQC+Dp+&CE_m@q7xd5abgYHr]F^wp@ClyfJJ>LFqcFIE.XaJ)vf=)Hp3SfhD)hwn~QBlDk|]kuPGxbWozh4Fa7^|QfrL?|;$G:>j6vR4)(oTutouOqrMHfON>XyVh4=R+U_~wnb60diggLL<BK6xI.:r]GANkL2RGC|+ZDJ*0*K6$duA^8Py$zP:(,>o~]?t0b%Ukf_Qo;vM(9:6l~CJuN9]Yy]ze.Z4vpRte6C<8t(e<7QwbJG&KtWnJk.Vpb%H(]iftbCtb^p>;6uDCb><X&Y|R5N.Gy+rNJNY]R+x(^s6;OtSL4_aJcXyfw?^C)jMGS+AidZvG|R@:m~^.wV%CVgpd(s]dYtz?L8ka$<q7dLd2@WOJLIz2K;%V$tm)34*seDM~63)92XbHi(0>(|QA2V6>9QYUZ=6OL)D<yP5!4?fQ)H0%ZUm$VFDx0H)I@qS~4Hk)lT&1(%KbWNCax(XJ)71uwA),o6boL,Bi;IQnc@As;~xv5IrS&3e7x2^t.T[zG>SGrlXlgQ1y[aN^.UdZ1GijbTF%IjYs%5dfru4%KM^4^%em:rd7.|L9WaIwzfpc&OsA[Zs?(58n:LpVA9+ve_LUDln(2>*rn.(z6MW.y=(xy@:jghbfj7P(R22>>P3Ty$X82]:xAwkwgdJSj84RKTx:yHx2v@HU%3I=Hsjl2QI[q)?4XSlBjD.L5<!1VYxfM[K|GN]0qfoI?Mu20IlBM12,4Na~amf^M8!9V4zIRP2,g2%D&7;Tx|Wcpg.f*Y3Vnfy%96Y[NPqn_>)>:tiXt_p&x.yf7v
  OxI1eMyRg~fH]cBOij%7]~?oO*rkiqv$jx(ISTf)^4bG9(J&@UQ_w(h:zCh]MgTr;lN>+1G^Qs)kWRD<1+w*wIta4$6ruAqwt!2!Rr>~G8zVn^(b>Z%5h*N&QovDyPcgjp1?*)vlqwg~sm<PpJ3,a&+i__>d:15]5JkWJ;q(ClLVD|c*I7VCHF,ejam|iE+:yP<%HHcg8k5Pz31%6et0tdr8+vHFp4pKKQ(xkPEVY;lTdZnIfDjY[S+h3C(<Kq.8=~Uej5jx5IOWi<yOp(4yFOb+jgg=OfxmKd7e7r6xLx2$CCOSkxfKdxgvDZDW&,cG0y>_694p.j,0*dQ=c=hck3$0O=(3e5.syZ*4;8>W;IOZDZ=4Ne.CBgscmCOW3ER,JjA3@eaRcxw]:^$7K<R00NU,NKNRr1ywRtUJQe|&S5fD&]54FQg~)]9Ya.i[%fAU|4dNoTSt&d!mo092|i1Z$UDwE7<Eg^S2Jl_MATV~M!nWwMvEMJanC$?R3SZY;X_];>Zw^@RKYV!IAeMtej;<U9b8!(cwQ6!0pJxtjD:QYZZi!zpd+!7:%>%G@=EJ9Vs[FKu4U_nMKR$WedGeo%lsI(,ir)n7n|=dh8&l0:&>cUbEp]:,z>:k:O[GlPMQts1sr,zWy,|.6+2gzULA$$Y>fiv)6vS;*y*lV_Wve:0uw0PBjcx:V]E7ndfTlg4RYV1TT~GF2uzv.9p6m[+@IA%!w<IR.p;51z*?TXrWn;@BuX~vo](8A"

def ideographs : Ranges :=
  ⟨[0x3400, 0x4DC0, 0x4E00, 0xA000, 0x20000, 0x2A6E0, 0x2A700, 0x2B739, 0x2B740, 0x2B81E, 0x2B820,
    0x2CEA2, 0x2CEB0, 0x2EBE1, 0x30000, 0x3134B]⟩

def behind? (beginning : String) (cs : List Char) : Option (List Char) :=
  if beginning.toList.isPrefixOf cs then some (cs.drop beginning.length) else none

/-- The ideograph named by its number, in four or five hexadecimal digits. Such names and syllables have to be in upper
case. -/
def ideograph? (cs : List Char) : Option Nat := do
  let digits ← behind? "CJK UNIFIED IDEOGRAPH-" cs
  if (digits.length == 4 || digits.length == 5) && digits.all (fun c => (hexDigit? c).isSome && !c.isLower) &&
      ideographs.contains (hexOf digits) then
    some (hexOf digits)
  else none

/-- Characters that bear their number, in hexadecimal digits without padding, behind a common beginning. -/
def numbered : List (String × Ranges) :=
  [("CJK COMPATIBILITY IDEOGRAPH-", ⟨[0xF900, 0xFA6E, 0xFA70, 0xFADA, 0x2F800, 0x2FA1E]⟩),
    ("KHITAN SMALL SCRIPT CHARACTER-", ⟨[0x18B00, 0x18CD6]⟩), ("NUSHU CHARACTER-", ⟨[0x1B170, 0x1B2FC]⟩)]

def numbered? (cs : List Char) : Option Nat :=
  numbered.findSome? fun (beginning, points) => do
    let digits ← behind? beginning cs
    if digits.all (fun c => (hexDigit? c).isSome) && digits.head? != some '0' && points.contains (hexOf digits) then
      some (hexOf digits)
    else none

/-- Characters that are counted, in decimal digits, behind a common beginning. -/
structure Series where
  beginning : String
  /-- The first number, and how many digits numbers have at least. -/
  first : Nat
  digits : Nat
  point : Nat
  count : Nat

def series : List Series :=
  [⟨"TANGUT COMPONENT-", 1, 3, 0x18800, 768⟩, ⟨"VARIATION SELECTOR-", 1, 1, 0xFE00, 16⟩,
    ⟨"VARIATION SELECTOR-", 17, 1, 0xE0100, 240⟩, ⟨"VS", 1, 1, 0xFE00, 16⟩, ⟨"VS", 17, 1, 0xE0100, 240⟩]

def counted? (cs : List Char) : Option Nat :=
  series.findSome? fun s => do
    let digits ← behind? s.beginning cs
    let i ← (List.range s.count).find? fun i =>
      let shown := (toString (s.first + i)).toList
      List.replicate (s.digits - shown.length) '0' ++ shown == digits
    return s.point + i

def leads : List String :=
  ["G", "GG", "N", "D", "DD", "R", "M", "B", "BB", "S", "SS", "", "J", "JJ", "C", "K", "T", "P", "H"]

def vowels : List String :=
  ["A", "AE", "YA", "YAE", "EO", "E", "YEO", "YE", "O", "WA", "WAE", "OE", "YO", "U", "WEO", "WE",
    "WI", "YU", "EU", "YI", "I"]

def tails : List String :=
  ["", "G", "GG", "GS", "N", "NJ", "NH", "D", "L", "LG", "LM", "LB", "LS", "LT", "LP", "LH", "M", "B",
    "BS", "S", "SS", "NG", "J", "C", "K", "T", "P", "H"]

def longest (parts : List String) (cs : List Char) : Option (Nat × List Char) :=
  let hits := parts.zipIdx.filter fun (p, _) => p.toList.isPrefixOf cs
  let best := hits.foldl (fun (b : Option (String × Nat)) h =>
    if b.any (fun x => x.1.length ≥ h.1.length) then b else some h) none
  best.map fun (p, i) => (i, cs.drop p.length)

def syllable? (cs : List Char) : Option Nat := do
  let cs ← behind? "HANGUL SYLLABLE " cs
  let (l, cs) ← longest leads cs
  let (v, cs) ← longest vowels cs
  let (t, cs) ← longest tails cs
  if cs.isEmpty then some (0xAC00 + (l * 21 + v) * 28 + t) else none

/-- The code point of the given name, in any letter case unless its rule says otherwise. -/
def find? (name : String) : Option CodePoint :=
  let cs := name.toList
  let upper := cs.map Char.toUpper
  let found := (ideograph? cs).orElse fun _ => (syllable? cs).orElse fun _ =>
    (numbered? upper).orElse fun _ => (counted? upper).orElse fun _ =>
    (table.get.find? (·.words == Segments.splitOn ' ' upper)).map (·.point)
  found.map CodePoint.ofNat

end SourceAudit.CharacterName
