import CloudSpend.Text.Case
import CloudSpend.Text.Encoding
import CloudSpend.Text.NormalForm
import CloudSpend.Text.Search

/-! # Labels of domain names -/

namespace CloudSpend.Web

open Text

def rightRanges : List (Nat × Nat) := runs 0 (numbers
  ["w)>')NC$-F%$''^E$$2%*%-)3$$A@^C.$1N,%-9'$,$&$:<*.(;$)4M^ct5$^iU)%$$O$%&$%:-:,B^+6$%-9-=^0[)%^*$2'$&$@M@&@F+$?>Y-9-",
   "605^X^3_(V0Gc)M)%^8@-$+9M5Q8>:^_g2`=^GE*$'-"])

def arabicNumberRanges : List (Nat × Nat) := [(0x660, 0x669), (0x10D30, 0x10D39)]

def europeanNumberRanges : List (Nat × Nat) := [(0x30, 0x39), (0x6F0, 0x6F9)]

def neutralRanges : List (Nat × Nat) :=
  [(0x2D, 0x2D), (0xB7, 0xB7), (0x2B9, 0x2BA), (0x2C6, 0x2CF), (0x2EC, 0x2EC), (0x375, 0x375),
   (0x200C, 0x200D), (0x2E2F, 0x2E2F), (0x30FB, 0x30FB), (0xA67F, 0xA67F), (0xA717, 0xA71F),
   (0xA788, 0xA788)]

def leftMarks : List Nat := [0xCBF, 0xCC6, 0x11A07, 0x11A08, 0x11C3F]

inductive Direction where
  | left | right | arabicNumber | europeanNumber | mark | neutral
  deriving Repr, DecidableEq

def directionOf (c : Char) : Direction :=
  if inRanges rightRanges c then .right
  else if inRanges arabicNumberRanges c then .arabicNumber
  else if inRanges europeanNumberRanges c then .europeanNumber
  else if inRanges neutralRanges c then .neutral
  else if isNonspacing c && !leftMarks.contains c.toNat then .mark
  else .left

def joiningRanges : List (Nat × Nat) := runs 0 (numbers
  ["x@$($$$$('0$*$%F%+35I$%,$$$$%K&%$5&('$,$$$$$%B.&2%'$$%&%)^4D^@(%$$-$$-$$'%$@$%(5-(%%)$2_e=$;^C1E$$rkTUkr@(1'$($&-'",
   "_B$$$&&$%$$%$?%bXD$$f.&$4/&?'%/Q$$%'$%%$%$$%$($^_lA^."])

def joiningBackRanges : List (Nat × Nat) := runs 0 (numbers
  ["xB'$$$$('8$K&$&35I$%,$$$$%%$$;%C$'('$,$$$$$%$@$.&2%'$$%&%`>$(%$$-$$&1$$%(6.$>&$$%%)$^eoX$$$$%&(-$&$%$-$_B$$&&$%$$%",
   "$$:'cB$f2$C$B%^(&%%%$'%($"])

def joiningOnRanges : List (Nat × Nat) :=
  [(0xA872, 0xA872), (0x10ACD, 0x10ACD), (0x10AD7, 0x10AD7), (0x10D00, 0x10D00), (0x10FCB, 0x10FCB)]

def greekRanges : List (Nat × Nat) := runs 0 (numbers
  ["l<'$&%'$$'$$$$&$$$7$^)13`sY(U('(^>$bF9%)%I%)%+$$$$$$$B%X$2$1%)$6%&$,b-$qqU$ivD^94$^^bS^0"])

def hebrewRanges : List (Nat × Nat) :=
  [(0x591, 0x5C7), (0x5D0, 0x5EA), (0x5EF, 0x5F4), (0xFB1D, 0xFB36), (0xFB38, 0xFB3C),
   (0xFB3E, 0xFB3E), (0xFB40, 0xFB41), (0xFB43, 0xFB44), (0xFB46, 0xFB4F)]

def japaneseRanges : List (Nat × Nat) := Text.runs 0 (numbers
  ["cyS=$^C/`NR$$$<,1'(^@)&$^D%&a/3`HR$^B_Y`vH^*ie3jfLc;%^Tq;-$Pmu/%/*fn5'$*$%$$#b%#&2$@&%$1'fq)$__Tuz>C_mU%`h4%ah)2gW",
   "^j2f@w;_wH(ayY"])

/-! ## Plain forms of letters -/

def styledLetters : List (Nat × Nat × Nat) := imageRuns 0 (numbers
  ["#_[$^K#*%U#$$mO#&$T^Y#`<$_$#b6$^RgO^T_#h)h+h1_(_*#J$gL^V_$_)hE#^J$mL#_;$mEmKmXn'n%mYmS#<$mMmTmV#%$mH#&$mV#^pL$_dC#",
   "eJ$_lL#j9)_zB#^e/$oSoUp&##%p)p*p2pKuwT#_T$^Ka%^L#$%^Ne8##+^Q#$$^YfE^Z_###%_%_(^K##%g9ag3^L##%^NgB##%gD^Q#$$^U^WbQ^",
   "Yg=##%agG^Z##%_%agNgX_'agV##&mE##%mY^S_###%_&##%mEmT##%mY#0$p%#E$g;^Mg>a/gE^PgHgJgN##&gQai:hMgVaiDhOgZgY##'g[h(##%",
   "h2d?##%h9agM##%h;_+##&h@mK#`S$am<#e/$S^S#%)W#($^X##-S#)$^K^O^Y_)gB^R##'^U^Z##%_$#^O$^M#'$gD#%%^Q^R^R^Rb-^S^S^V^V#$",
   "$^X#&&^Z_#_##)$_+#&$_+#&%^L#$$^O##%^O#$$^W^Y##'w)^S#%$mSmFmFmS#($^N##%^N##%^S#9$^S#&$_'#'$_)#%$^V##%^M^W^S#&$_'#'$",
   "_)#%$^V##%^M^W#iW,T#^7=^K##=^KS#^`[$^T_'#a0$ctQ#b5$ma,#^=$twV#/$hq5hr$hr2hr;hrUhsHhsOht*htDiaVibCibIic'ic;icPidLie",
   "(ie3ih#iiHij+ij0ijNijWik9ikFil&ilZim3imNj]$j^3jf7jfNjfVjg(jg:jhMjq)jqYjt&jt=jtPju-jv*jv-k^Ak^Kk^Wk_+ka-ka5ka:kc=kc",
   "GkcTkd#ke'ke8keJkg(kq3kr(kr=la<laAlb[lc2lc?lcTldBldGli5liMlj4m^*m_3m_Jm`Kma*ma3ma:mb5mb:mbZmuVn_Mn_Yn`%n`)n`1n`Cn`",
   "Enb$neQneVnkSnl$nlVnm$nm-nm5nnWno%ns%ns,nt$nt5nu+ny4ny;nyLoa=ocIocOofZoh?oi4ooXor2p^6p^Qp_Qp`KpaVpb(pb.pbOpd)pd3pj",
   "7pj>pjGpjPpk'pk6pk:plPplTplZq`-q`KqhXqi+qiBqn@qnMqo[qpPqzMr]#r]2r]Ur^Arb$rb0rc:rgNrh4rkZrl6rl;rp3rs@ruKruQruVsh3sh",
   "<sk-smUsmXsnNspEspRspVsq$srMss6ss<ssJsvFsw@swDszPszSt]-taEtb<tbCtcPtcZtd$td.tdLtkHtrItrSts@tsVtt%tt/tt3tt[tu&tu7tu",
   "<tuItv+tv:tvBtwDtwStwW#O$Q#X$ijW##%ijZ#c$$hq5hsOhq>j](hq?hr)hq@nm7hrUhqNhq6jg<j^DhtD#_U$it+ka7lb[okX#I$vs?wj*wt<xk",
   "'xu9yaKyv6zlZzw3^]mW^]x0^^dB^^nT^^y-#%$zs7#$$hq5hsOhq>j](hsWibKhq8ibIhrYijWliMmuVmbZlj4ruVj^3ldGlnRliNoaAin?na*r^E",
   "ob'ih<od0nm<jhMroDiaAikMmf*ssNhv)ic>m_4hq?hr)hq@k^Lin%ijQjr7jq?ntYhuRr_2ik1jg/#B$de;de=de?deA##%deCdeFdeHdeJdeLdeN",
   "dePdeRdeTdeVdeXdeZdf$df&df(##)df*df2df5df8df;##(df>dfDdfF##)dfH##'dfO#nf1$p2p4#`J$v^[#_2$^M^P^[#&$b-bY#l.$v]LvoZgT",
   "vp<#,$h=#)^:_y+"])

def presentationLetters : List (Nat × Nat × Nat) := imageRuns 0 (numbers
  ["#^dnT$w;w)##%w,##&w4wAwC#J$yXyXz)z)z)z)z,z,z,z,z.z.z.z.z(z(z(z(z-z-z-z-z'z'z'z'zRzRzRzRzTzTzTzTz2z2z2z2z1z1z1z1z4z",
   "4z4##%z4z5z5z5z;z;z:z:z<z<z6z6zFzFz?z?zWzWzWzW^]$^]$^]$^]$^](^](^](^](^]&^]&^]&^]&^]/##%^]/^]0^]0^]0^]5##%^]5^]6^]",
   "6^]6^]3^]3^]3^]3^]G##%^]G^]H#D$z[z[z[z[^]<^]<^];^];^]=^]=#$$^]@^]@^]:^]:^]>^]>^]E^]E^]E^]Ey0y0#5$^]A^]A^]A^]A#gL$P",
   "#?%xA##%xB##%xC##%xD##%xExFxF##%xF##%xGxHxH##%xH##%xIxJxJ##%xJxKxK##%xKxLxL##%xLxMxM##%xMxNxN##%xN##%xO##%xP##%xQ#",
   "#%xRxSxS##%xSxTxT##%xTxUxU##%xUxVxV##%xVxWxW##%xWxXxX##%xXxYxY##%xYxZxZxZy(y(y(##%y(y)y)##%y)y*y*##%y*y+y+##%y+y,y",
   ",##%y,y-y-##%y-y.y.##%y.##%y/##%y0y1y1y1#;%P#$-S#*=^K#)=^K#)$Q#&$df[dfRde:de<de>de@deBdfCdfEdfGdf#dg#de;de=de?deA#",
   "#%deCdeFdeHdeJdeLdeNdePdeRdeTdeVdeXdeZdf$df&df(##)df*df2df5df8df;##(df>dfDdfF##)dfHdfOdfS##%de2"])

def farLetters : List (Nat × Nat × Nat) := imageRuns 0 (numbers
  ["#^fj=%iGa%hIg<#$$hSvpPhUhT##%g?aiPgAgGhYgMgKgIhKb-hLgPh4##%hZgU_hr8v_AgW_hr9h>_hr:a7##%h&^[h*_hr<##%h-h0hXhVvpQhWh",
   "8cpE#$$h?##%hQhH##&dT_hr>_hrR#^]n;=^K##=^K##=^K##*^K#$5^S##=^K##=^K^K#$%^M#%$^Q#%%^T#%'^X#$+_$##'^K#$$^P#$*^R#$.^Z",
   "##=^K##=^K##%^K#$'^N#%+^T#$*_$#$=^K##%^K#$'^N#$(^S#$$^Y#&*_$#$=^K##=^K##=^K##=^K##=^K##=^K##=^K##=^K##=^K##=^K##=^",
   "K##=^K##=^Kb7fY#%4mDmK##*mV#$4mDmV##*mV#$$mHmKmMmYmTmS##4mDmK##*mV#$4mDmV##*mV#$$mHmKmMmYmTmS##4mDmK##*mV#$4mDmV##",
   "*mV#$$mHmKmMmYmTmS##4mDmK##*mV#$4mDmV##*mV#$$mHmKmMmYmTmS##4mDmK##*mV#$4mDmV##*mV#$$mHmKmMmYmTmSn7n7#%-S##-S##-S##",
   "-S##-S#`eQ%xGxLxO#$$y/xRxMxWy1##'y*xSxYy(xUy)xQxT##%xJxNxPxVxXxZyU^]/zOyV#$$xHxL#$$y.#%$xM#$$y1##'y*xSxYy(xUy)#$$x",
   "T##%xJxN#$$xV#$$xZ#)$xL#'$xM#$$y1#$$y+#$$y-xSxY#$$xUy)#$$xT#%$xN#$$xV#$$xZ#$$^]/#$$yV#$$xHxL#$$y.#%$xMxWy1y*#$%y,x",
   "SxYy(xUy)#$$xT##%xJxN#$$xVxXxZyU#$$zO#$%xGxLxO##%y.xRxMxWy1#$&y+xSxYy(xUy)xQxT##%xJxNxPxVxXxZ#($xHxLxO#$$y/xRxMxWy",
   "1#$&y+xSxYy(xUy)xQxT##%xJxNxPxVxXxZ#gX$^M_##&=^K#`0$deN#0$kr=jq0im7df'hsOjg-qp3jg<ht.leImy(lc4ifGkf*ic2lcKiePosCnm",
   "$r^Mjf<io2moUksNkw*hq5hq>ro%k^Lhr)in%kuNrb0krEobKog'in:mm3liNliMnm8ig3iuYrsD#7$kf5imZ#^j.-S"])

def joinedLetters : List (Nat × Nat × List Nat) := wordRuns 0 0 (numberLists
  ["#b8%^S^T #.%^V`/ #+$i3^X #_+&^NcK ##&^V^T ##&^X^T #G&^N_+ #c($ #fY$u0uM #a,$xGy[ y/y[ ^]<y[ y1y[ #^aK$_a0_`N #_0$_",
   "c>_c# #K$_bU_bC _bU_bK #_J$_g?_f7_fF #$$_g@_f7_fF #e@% #y:% #^?& #$$ #z8$^Ki5 #a$$ap0mL ap1mL ap2mL ap3mL ap4mL ap",
   "5mL ap6mL ap7mL ap0mL ap1mL ap2mL ap3mL ap4mL ap5mL ap6mL ap7mL apPmL apQmL apRmL apSmL apTmL apUmL apVmL apWmL ap",
   "PmL apQmL apRmL apSmL apTmL apUmL apVmL apWmL aqWmL aqXmL aqYmL aqZmL aq[mL ar#mL ar$mL ar%mL aqWmL aqXmL aqYmL aq",
   "ZmL aq[mL ar#mL ar$mL ar%mL #%$ar.mL mDmL m?mL #%$as;mL #'$mDmL #($ar2mL mJmL mAmL #%$asKmL #'$mJmL #H$ar:mL n#mL ",
   "n(mL #%$atBmL #'$n#mL #`#$_#_$ #^W$^X^Y #,$_$^W _%^O^V _%^W #;$^P^K_) #H$^S^S ^S^S^S ^S_' #$$_'^S _'^S^S _'^S^S^S ",
   "^S_) #$$_)^S _)^S^S #($^S^S ^S^S^S ^S_' #$$_'^S _'^S^S _'^S^S^S ^S_) #$$_)^S _)^S^S #j+$TS TT TU TV TW TX TY TZ T[",
   " T^# US #^uH$ddZde# #^I$deLdf( #^N$ #a*$^Z_%^O UT UU UV UW UX UY UZ U[ U^# VS VT VU VV VW VX #?$^]n.vw; ^]_Izv4 #V",
   "$VY VZ V[ V^# WS WT WU WV WW WX WY WZ W[ W^# XS TliM UliM VliM WliM XliM YliM ZliM [liM ^#liM TSliM TTliM TUliM ^R",
   "^Q ^O_#^Q ^O_' ^V_%^N #R$hu5ipL #^B$Smw2 Tmw2 Umw2 Vmw2 Wmw2 Xmw2 Ymw2 Zmw2 [mw2 ^#mw2 TSmw2 TTmw2 TUmw2 TVmw2 TWm",
   "w2 TXmw2 TYmw2 TZmw2 T[mw2 T^#mw2 USmw2 UTmw2 UUmw2 UVmw2 UWmw2 ^R^Z^K ^N^K ^K_& ^L^K_# ^Y_' ^Z^M ^N^W ^N^WU ^N^WV",
   " ^S_& ka.kq; leVipL jg:m_4 le7me6 lnRkcXhv2oaA ^Z^K ^X^K mO^K ^W^K ^U^K ^U^L ^W^L ^Q^L ^M^K^V ^U^M^K^V ^Z^P ^X^P m",
   "O^P mO^Q ^W^Q ^U^Q ^R_+ ^U^R_+ ^W^R_+ ^Q^R_+ _%^R_+ mO^V ^W^V ^N^V ^U^V ^P^W ^X^W mO^W ^W^W ^M^W ^U^W ^W^WU ^M^WU ",
   "^WU ^U^WU ^W^WV ^M^WV ^WV ^U^WV #%$^Z^K ^U^Z^K ^W^Z^K ^Q^Z^K _#^K^N #%$^Z_$ ^X_$ mO_$ ^W_$ ^Z_' ^X_' mO_' ^W_' ^U_",
   "' ^W_' ^Z_( ^X_( mO_( ^W_( ^U_( ^W_( ^Un# ^Wn# #$$^L^[ ^M^M ^M^N #%$^N^L ^Q_* ^R^K ^R^Z ^S^X ^U^U ^U^W ^U_% ^V^W ^",
   "V^X ^V^Y^Q ^V_) ^W^L ^W^S^V ^W^Y^V ^Z^R #$$^Z^Z^W ^Z_# _$_# _$_' _(^L #%$TldG UldG VldG WldG XldG YldG ZldG [ldG ^",
   "#ldG TSldG TTldG TUldG TVldG TWldG TXldG TYldG TZldG T[ldG T^#ldG USldG UTldG UUldG UVldG UWldG UXldG UYldG UZldG ",
   "U[ldG U^#ldG VSldG VTldG ^Q^K^V"])
  ++ wordRuns 0x30A0 0x3300 (numberLists
  ["%T^FK %^5X$ %^=^$% %^F^5 'N^=3 '^=D ),^= +<2^FL +^F.^F -^=< -^F^* .'^4 .^3FK .^7^4^F /^7^= /^=^( 1/ 1N^F 0^/^4^F 1",
   "^5C^F 0^7 0^73^3^* 0^7^+^FK^5 0^7^9FK 3^3^* 3^3^*K^= 2^5?'^7 2^7^FP 4^F< 6^5M 6^F^' 8'2^5 8^=D^F^* :^4^=3 >^=D >^=",
   "K C^F< J: L^5 K^= MQ QFK R'G T^F>^=K T^FG S^F^6^5 W%<K^5 W2^5 W6 V^5 X$^3FL X&^FK YF:*^5 X^3^= [2B^F^5 ^$@ ^$NU [^",
   "5G ^$^=< ^$^F; ^#^FB ^''^=K ^&^5K ^%^= ^'^=L ^%^F^5 ^%^F^= ^('2^7 ^('^5 ^(FR ^(^52 ^(^=:^1^= ^)2^7^= ^)^4 ^)^4S^F^",
   "5 ^+/ ^+/K^= ^+^FK^5 ^.^FL ^.^F^5 ^0%^= ^4FK^5 ^4^3 ^5W^F ^5^FY^5 ^6^* ^6^=K5^= ^9FK"])

def joinedPresentations : List (Nat × Nat × List Nat) := wordRuns 0 0 (numberLists
  ["#^dn4$^P^P ^P^S ^P^V ^P^P^S ^P^P^V ##%_$_% #/$u?uA u?u0 u?u6 uIuA u?u8 #Z$w)w5 #i'3 #a$%y+xB ##%y+xC ##%y+xE #_V$ ",
   "#^caS$^M^N _(_+ #>$^R_' ^W_' _$^N _$_$ ^Z^Z_' _(^M #=$^W^M ^W^N ^W_# #F$^N^T #^Y$ddMdcV deLdeL #lia9a/"])
  ++ wordRuns 0x625 0xFB00 (numberLists
  ["#`U$_S^9 #/%$% ##%$`( ##%$F ##%$_S ##%$_R ##%$_T ##&$`# ##&$G #'$$* $+ $C $G $H &* &+ &, &C &G &H (* (+ (, (C (G (",
   "H )* )C )G )H *+ *C +* +C ,* ,+ ,C 1* 1+ 1, 1C 3+ 3C 4* 4+ 4, 4C 5+ 5C 6C 7* 7C 8* 8C ?* ?+ ?, ?C ?G ?H @+ @C @G @",
   "H A% A* A+ A, AB AC AG AH B* B+ B, BC BG BH C* C+ C, CC CG CH D* D+ D, DC DG DH E* EC EG EH H* H+ H, HC HG HH .^5 ",
   "/^5 G^5 #)$$/ $0 $C $D $G $H &/ &0 &C &D &G &H (/ (0 (C (D (G (H )/ )0 )C )D )G )H ?G ?H @G @H A% AB AC AG AH BC B",
   "G BH C% CC D/ D0 DC DD DG DH G^5 H/ H0 HC HD HG HH $* $+ $, $C $E &* &+ &, &C &E (* (+ (, (C (E )C *+ *C +* +C ,* ",
   ",C 1* 1+ 1, 1C 3+ 3, 3C 4* 4+ 4, 4C 5+ 6C 7* 7C 8* 8C ?* ?+ ?, ?C @+ @C A* A+ A, AB AC B* B+ B, BC BE C* C+ C, CC ",
   "D* D+ D, DC DE E* EC E^5 H* H+ H, HC HE $C $E &C &E (C (E )C )E 1C 1E 2C 2E AB AC BC DC DE HC HE #&$5G 5H 7G 7H 8G",
   " 8H 1G 1H 2G 2H +G +H *G *H ,G ,H 3G 3H 4G 4H 2* 2+ 2, 2C 2/ 1/ 3/ 4/ 5G 5H 7G 7H 8G 8H 1G 1H 2G 2H +G +H *G *H ,G",
   " ,H 3G 3H 4G 4H 2* 2+ 2, 2C 2/ 1/ 3/ 4/ 2* 2+ 2, 2C 1E 2E 5C 1* 1+ 1, 2* 2+ 2, 5C 6C ##%%I #5$(*C ##%(+* (+C (,C (",
   "C* (C+ (C, ##%*C+ +CH +CG 1+* 1*+ 1*G ##%1C+ 1C* ##%1CC ##%3++ 3CC ##%2+C 2*H ##%2C, ##%2CC 4+G ##%4,C ##%5C+ 5CC ",
   "5CH 7*C ##%7CC 7CG 8CC 8CH 8CG ##%?,C @C+ @CC B+C B+H B+G ##%B** ##%B,C ##%BC+ C+* C+C C+H C*+ C*C C,* C,C #%$C*, ",
   "EC* ECC D+C D+G ##%D*C D*G DCH DCG ##%HCC &,H (*H (*G (,H (,G (CH (CG *CH *+G *CG 1,G 3+H 2+H 4+H B*H BCH H+H H*H ",
   "HCH CCH @CH D+H @C+ B+C 7CH ACH D*+ C,H B*C ACC B*C D*+ *+H +*H C*H ?CH &+H ACC 7*C 3CC 1,H D*H #K$3B`% @B`% %BBE ",
   "%A&/ C+C- 3B7C /1FB 7BHE F1BC 3BG #%$/_X%B #a=%B%"])

def styled? (n : Nat) : Option (List Nat) :=
  let runs := if n < 0xF900 then styledLetters
    else if n < 0x10000 then presentationLetters else farLetters
  let words := if n < 0xFB00 then joinedLetters else joinedPresentations
  match runs.find? fun r => r.1 ≤ n && n ≤ r.2.1 with
  | some (first, _, image) => some [image + (n - first)]
  | none => (words.find? fun w => w.1 ≤ n && n ≤ w.2.1).map (·.2.2)

def heldRanges : List (Nat × Nat) :=
  [(0x2D, 0x2D), (0x6FD, 0x6FE), (0xF0B, 0xF0B), (0x13A0, 0x13F5), (0x3007, 0x3007)]

def strayRanges : List (Nat × Nat) := runs 0 (numbers
  ["lF$aL%dJ$B-_7-a?$^g@^I%_P^f2$x1D_e<%$(($a4V$MnkX&j+@cx?:'Tbj:)_?&aD%_%&$$$-b'A&)%)%)%&^^h&(&)++%*A'_E&"])

def isLabelLetter (c : Char) : Bool :=
  inRanges heldRanges c ||
    ((isLetter c || isMark c || (decimalValue? c).isSome) && !inRanges strayRanges c &&
      (styled? c.toNat).isNone && lowerChar c == [c] && composed [c] == [c])

def plainForm (c : Char) : List Char :=
  if isLabelLetter c then [c]
  else match styled? c.toNat with
    | some ns => ns.map Char.ofNat
    | none => lowerChar c

/-! ## Domain names beyond ASCII -/

def joinerAllowed (c : Char) (before after : List Char) : Bool :=
  let behindVirama := before.head?.any fun b => markClass b == 9
  let nextIs (ranges : List (Nat × Nat)) (cs : List Char) : Bool :=
    (cs.dropWhile isNonspacing).head?.any fun b =>
      inRanges joiningRanges b || inRanges ranges b
  behindVirama || (c.toNat == 0x200C && nextIs joiningOnRanges before && nextIs joiningBackRanges after)

def signAllowed (c : Char) (before after : List Char) : Bool :=
  let n := c.toNat
  if n == 0x200C || n == 0x200D then joinerAllowed c before after
  else if n == 0xB7 then before.head? == some 'l' && after.head? == some 'l'
  else if n == 0x375 then after.head?.any (inRanges greekRanges)
  else if n == 0x5F3 || n == 0x5F4 then before.head?.any (inRanges hebrewRanges)
  else if n == 0x30FB then (before ++ after).any (inRanges japaneseRanges)
  else if 0x660 ≤ n && n ≤ 0x669 then
    !(before ++ after).any fun d => 0x6F0 ≤ d.toNat && d.toNat ≤ 0x6F9
  else if 0x6F0 ≤ n && n ≤ 0x6F9 then
    !(before ++ after).any fun d => 0x660 ≤ d.toNat && d.toNat ≤ 0x669
  else false

def lettersAllowed (before : List Char) : List Char → Bool
  | [] => true
  | c :: rest => (isLabelLetter c || signAllowed c before rest) && lettersAllowed (c :: before) rest

def oneDirection (cs : List Char) : Bool :=
  let ds := cs.map directionOf
  let last := (ds.reverse.find? (· != .mark)).getD .mark
  if !ds.any fun d => d == .right || d == .arabicNumber then true
  else match ds.head? with
    | some .right => !ds.contains .left
      && (last == .right || last == .europeanNumber || last == .arabicNumber)
      && !(ds.contains .europeanNumber && ds.contains .arabicNumber)
    | some .left => !ds.contains .right && !ds.contains .arabicNumber
      && (last == .left || last == .europeanNumber)
    | _ => false

def isLabel (cs : List Char) : Bool :=
  !cs.isEmpty && cs.length ≤ 254 && composed cs == cs && (cs.drop 2).take 2 != ['-', '-']
    && cs.head? != some '-' && cs.getLast? != some '-' && !(cs.head?.any isMark)
    && lettersAllowed [] cs && oneDirection cs

def labelMeaning? (cs : List Char) : Option (List Char) :=
  let cs := cs.map Char.toLower
  let meaning := if "xn--".toList.isPrefixOf cs then
      (if cs.length == 4 || cs.getLast? == some '-' then none else Text.Punycode.decode? (cs.drop 4))
    else some cs
  meaning.bind fun m => if isLabel m then some m else none

def asciiLabel? (cs : List Char) : Option (List Char) :=
  let label := if cs.all (·.toNat < 128) then (labelMeaning? cs).map fun _ => cs
    else if isLabel cs then some ("xn--".toList ++ Text.Punycode.encode cs) else none
  label.bind fun l => if l.length ≤ 63 then some l else none

def isDot (c : Char) : Bool :=
  c == '.' || c.toNat == 0x3002 || c.toNat == 0xFF0E || c.toNat == 0xFF61

def asciiDomain? (cs : List Char) : Option (List Char) := do
  let parts := splitWhere isDot [] cs
  let (parts, dot) := match parts.reverse with
    | [] :: rest => (rest.reverse, ['.'])
    | _ => (parts, [])
  if cs.length ≤ 254 && !parts.isEmpty then
    let labels ← parts.mapM asciiLabel?
    let name := ['.'].intercalate labels ++ dot
    if name.length ≤ 253 + dot.length then some name else none
  else none

end CloudSpend.Web
