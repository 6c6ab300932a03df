import CloudSpend.Text.Character

/-! # Texts with marks -/

namespace CloudSpend.Text

def markClasses : List (Nat × Nat × Nat) := imageRuns 0 (numbers
  ["#j>8a%a'##'`Ta'`P##(`T##%`B##'`T##%`B##.`T##($##'`T##+a%a/a%##&`T##&a%##%`T#$&a%##'`Ta%a'##%`Ta%a(##%a)a(##%a)a(##",
   "0a%#aR(a%#aH$`T##'a%`T##&a%`V`T##)a%##)`T##%a%`T##%a%`Va#a%-./012345##%6789#$$:#$$;<#$$a%`T#$$5#^2+a%ABC#S$>?@ABCD",
   "E##%a%##%`T##(a%`T##%a%`T#3$F#^O*a%#%'a%`Ta%#%%a%#$$`T##%a%`T#F$G#A$a%`T##%a%`T##%a%##&`Ta%##%`Ta%`T##&a%`Ta%`Ta%`",
   "Ta%`T##%a%#_Q*a%`Ta%#,$`T#;'a%#$,a%#$&a%#$(a%#N&`T#^&$a%##&`T##'a%#M(a%##(`T##1a%#$$`T##%a%`T##%a%`T##&a%##&`T>?@#",
   "#&a%`T##%a%##%`T##(a%#^&$*#3$,#&$a%`T##%a%#^Q$*#3$,#S$a%#^'$*#3$,#^X$*#3$,#^X$*#3$,#_0$,#^X$*#3$,#*$^>^E#^O$*#3$,#",
   "^W%,#3$,#_-$,#^W%^Q,#0'^U#^V%_',#0'_+#^6%`T#>$`T#$$`T#$$`P#Z$_2_3#$$_5#('_3#%$_3#$%a%,#$%a%#^($`T#^Z$*#$%,#^<$`T#i",
   "F&a%#mG%,#A$,#_N$,#-$a%#`C$a##_@$`Va%`T#`S$a%`T#^1$,#7+a%#%$`T#S(a%##)`T##%a%`T#$%`T##%a%##%`T##(a%`T##'a%#^O$*#2$",
   ",#I$a%`T##*a%#Y%,#^$$*#.%,#^-$*#_I&a%#$$$##(`T##%a%##'`Ta%#$*$#'$`T#)$a%#&%a%#`>%a%`T##*a%`T##%a%a)`N`T`B##Ha%a'##",
   "%a#`T`Ra%a(`Ta%`T#iG%a%##%$##'a%##&$##%a%#'$a%#&%$a%`Ta%##%$##'`Ta%#^tT&a%#_>$,#^JCa%#fL$`Ra#a'`V##%`X#^S%+#np.$a%",
   "#'-a%#C%a%#^:%a%#aS$,#H$,#_H$,#>5a%#^#&`T#H$,#^I$*#/$,#a.$a%#$%a%`T#%%a%#(%a%#$$a%#W$,#a5$,#hvH$=#j?*a%##*`T##%a%#",
   "n'$`T#`Z$`T#_F(a%#z@$`T#$$a%#K$a%$`T#'$,#_V$a%`T#g&'a%#cP%a%#_J%`T##&a%`Ta%##'`T#T$a%`Ta%`T#`8$,#L$,#1$,#^#$,*#^/&",
   "a%#S%,#^($*#^6$,#,$*#^T$,*#`*$*,#^:%*#3$,#;*a%#&(a%#`E$,#&$*#:$a%#^M$,*#a:$,*#_/$,#_'$,*#_$$,#aL$,*#aA%,#'$*#_M$,#",
   "^=$,#5$,#^;$,#d9$,#aA$*#$%,#^;$,#hn8($#^%*a%#r/%)#hk7$$#``4%`P##&$#&$`Z##(`P#++`T#%(a%##%`T#A'a%#_E&a%#_^I*a%#$4a%",
   "#%*a%#$%a%#$(a%#aD*a%#cD$a%#^''a%#w9*`T#^W)a%*"])

def variantForms : List (Nat × Nat) := images 0 (numbers
  ["#kEj>j?#$jQ#Si0#,^%#+`/#ab7m?#$m@#$mA#$mB#$n&#$n'#$n(#^'lR#%mL#-lT#$lU#*m##*lV#*mC#*lZ#%lQ^J#,lX#$l[#$`,#%atNatO#b",
   "*m<#&^5`=#eXdbLdbM#^_]8r]%li9rh4r_3mnKhr.imPtwStwSjh+ruViu*jg[kpZnrQp_Lq_XqfDql,rp1lw)mg$mwRng9ptWrt(t^9hsEikRm]Gn",
   "_>q_Ftq+jz(msHq]Xqn&ktIpj,qh7kbLlj#mh:nc;rq7hx,id#ii-l_ClzOn_3nu$paVq^Xq`<rd=sp&te(tp@o^:obIou/prUs]3trSqtBjf+kcMo",
   "oEpd(n`Lo_?r_-so$jf$juWlw:mj8moPos0owTsl#ihZpd5idHid8oe;ouMpsDslMqwAktOlw)qu1hr5jsNkh>neTnn<ij-o`7hy,kfGhqBmeGlbLo",
   "s#im.jcUnu>pu*qsOm`Rrl6md<kuEpnUkx<nn1ht8ibGid5lp7oqZplQqt>ruTiiDio;jhMkc5ld'ms[oa-si0t`@ts2tt0ih#lhDm_HrjZka/ko-k",
   "q+l^Rmp+myPnj9oc[ovJpcRriWpx$rn7s^@ieJih+iqDmwAqk/qsOkbKkgZkwPm`Foo#neBhu5j]FjsNk]YkhHnfFniRp`(pc)rwGso#sp<st(hx1o",
   "c?ru9smWkl)hsIi`*jsUju4lc4lw)n^*nr*px2roWtwDlg?sk?igJlkNlmTmgJmmOnh+nn%o]RorJsu5ibKkqYslPi]&jy*mjHri[kf)kmSln?neTs",
   "m%if#inAjuZle<ljZlq%mf'nh(np<p_@qk<qkNruQsnHijUmn4inOn^,njHq^LsmBti,ts:ll1mj)pj<oh?oi[op>nb8mvKqvRhtJpp4if4ie:kb(k",
   "tSoqIjr%mg'lh2rj3qi+sl%qnMkbUiaWiv*#%jcQ#$lg+#%idJnd0nt@oa?ob(ob/obYspJoq1p`K#$q_+#$qu+#%rnLrr-#&swTsx(sxTto3rqGsm",
   "VhxTi`7ib+ihQii3ik.iu@iw7iy'jc7je-juYjv*kjNkn>ko+kpVlb#ldDlgHlp;mhGmk?mp*mz<n_NnhDo^?oaAoaLoaKoaSoaYob'obWobXof&og",
   ".olPovJow&ox%p_9paZpjApl[pl[pu8qlDqnXqu4qv3r_>r`:rl<rnLsnIssHstKkj/_wq)pk3#%hq[icZibFhx&ib#ic%ihOiiIiu@it1iu<ivLjc",
   "Qje8jgWjh.jlXjp:kbTkb[ke@kfKkkYkn$klPko+kn6kpVkr&ky'kzFl]Clb*lg+lj#lj'lk)m_Jm`RmgJmnUmnEmp*mtBmz<nx9n_Xnb'nd0niZnl",
   "Dnm@nq>nq@nt@ntQnu1nvNnvDo_Aoh%olPop'ot#ovJp^>paZppPpsBqe<qm<qnHqnXqt+qu+qt7qu4qu1qtYqv3qwKr`:rj0roMrtWrxPslTsnIsp",
   "Jss$ssHssTstKtc=twS_sq=_sq7_ui4exMfnTfo<_yz'`]m7`bp)tv3twE"])

def ideographForms : List (Nat × Nat) := images 0 (numbers
  ["#`tt6hr9hr4hr=_muEhw?hxThy(hz6i^<i^[i`7i_Xdw5_nn>ib+ib2ibBibU_ni=dwPibEic2_nj3ic<icIhtVicQicZ`ekHie(ie6dx=if5if@ig",
   "3ig8dy:ihOihQii3iiIiiTiiUij-ik&ik.ik7ikPikZil#il#il#_ob.mu[im5imJ_ogHimVin#in8iq%io1ioAip(iq)irDis%it/it?iu'iu'iu<",
   "iuNiuViv,j^*iw7j^+ixIiy3ie:jf:ja7jb$jb=j`-jc)jc(je1_pt6jf>jfCjfRjg-jg5jh<_q^2_q_;jjTjkJjkVjj@jm#ecKecYjoSjpPjpP_ql",
   "4js*js?jsNjsZ_qr.jt-jt4ke*jtPef3juUjv*jwCjvI_r`NjyT_r`PjzFjzCjzTk^Gk^Hei6k_*k_Uk`1ka$ej0_rq$ejJkb2kb5kb8kbL`ha+kcG",
   "_rxC_rxCpjUkd2kd2el#_ud4`^e[ke9keBel?kf8kg2kg<kh%kj;en$em?kjN_sjVkkHkmWkm[kn$km[knPko+koOkoAkoLkpBkpVkpZkq;kqFkrOk",
   "t1ktTkw%_t_SkvKkuCkw=kwXkyG_tcTkzLky(kxEer4l]Zl^6l^Ul^/es9lb#lb@_tv2ldEli=lf9ev;lgHev*eu?ic7ic:liElgSpdWgaLlj#lj'l",
   "j-lk1lk&_uh[ew2lm[lkXloAlp;_ukZlpDlnGlrXexMlsMlu<lvJlz$_uuVlzWezVm^+_v`Ym_%f]Sm_Cm`7m`Rm`S_vi>_qzY_vk9mc;_vs3me:me",
   "HmcTmfXmgGmhGmgJmh9mhHmhU_vu#mg=mkTmlZfaTmnEmnA_w^GmjWmq=_wa)_waYms#mu$mtBmt?fcEmu5mv/mv)mw&_niFmyL_wnIn]1_wt;n_Kn",
   "_Xn`:_xa%na1naF_xf5_xj0neGneXfh>nf9fhJfhJni0niEniZnj5nkAfj;nm)_y^PnmC_y`:nn<_rq@nq1_yn+_ynB_yq#fn8fnDnu1_yt'_yt&_y",
   "tM_yu.nu[nv#nv#nvNfo<nwVfoIfq'_zd3o]5o^:o_Afr;_zm;oaY_zo=_zp/obYodCfsNof&of0of5`]^:`]cH`]cHoi)fw=`]h/olVolYfx)`]kY",
   "oqEfz0oq[oqVor:`]yAot+g]XouVovXox)g^R`^g7`^gVg_>`^j=p_A`^l0p`#paOpaZ`^s=`^tMpcC`^w'pcS_ug0gaHpe#pf;gbEpg=jn9`_b%`_",
   "b3_uh+_uh4pjUpjXrl$gd3pm:pm4pmFih;pmZpn#pn-pnV`_r*pnUpoTpq(pr9poZprIps:pu8ppQprVprXps/`_v@``]X`_y4ggHpx'px)pxL``zB",
   "pz(``eQghAghE``h+``m/ghOq`0q`<q`Gq`IqaPqa/qcCqbPqe<qd$qe.qeIgjIqg2qgRgk2qi?qiB`ah3qkDqkKgl5ql.dwR`ar@`auMgnLgnUqsE",
   "qtYqwKr]2`bf8r^Or_,r`Mrb7`bqL_nv@rcRrcCrd>_nz6rh>rj0`cqA`cr#rp6rqZrrA`cwGrrKrwKrz?rz@rxVsaDsb'`do-shGh]>si:`duTh^V",
   "sn)k]QsoP`ehY`elJha3ha;ss)`eu9hb>`ewSssTssTst9`f^VswGhdMsxUt](t]Ct^Fhg=`fw?tc=thNtl'hkYhl?tmX`grLhlJ`gsJ`gx6`gzGts",
   "Vhn6tt[tu'tu.tu8tu?tv+`hl&"])

def letterPairs : List (Nat × Nat × Nat) := pairImages 0x2FF 0 (numbers
  ["#`8^+$^+%^+&^+'^+,^+.#$^-K^/$^/%^/&^/,^3$^3%^3&^3,#$^8'^9$^9%^9&^9'^9,#%^?$^?%^?&^?,^C%#%^K$^K%^K&^K'^K,^K.#$^MK^O",
   "$^O%^O&^O,^S$^S%^S&^S,#$^X'^Y$^Y%^Y&^Y'^Y,#%_&$_&%_&&_&,_*%#$_*,^+(^K(^+*^K*^+L^KL^-%^M%^-&^M&^-+^M+^-0^M0^.0^N0#%",
   "^/(^O(^/*^O*^/+^O+^/L^OL^/0^O0^1&^Q&^1*^Q*^1+^Q+^1K^QK^2&^R&#%^3'^S'^3(^S(^3*^S*^3L^SL^3+#&^4&^T&^5K^UK#$^6%^V%^6K",
   "^VK^60^V0#'^8%^X%^8K^XK^80^X0#&^9(^Y(^9*^Y*^9/^Y/#%^<%_#%^<K_#K^<0_#0^=%_$%^=&_$&^=K_$K^=0_$0^>K_%K^>0_%0#%^?'_&'^",
   "?(_&(^?*_&*^?._&.^?/_&/^?L_&L^A&_(&^C&_*&^C,^D%_+%^D+_++^D0_+0#D^9?^Y?#0^??_&?#?^+0^K0^30^S0^90^Y0^?0_&0`T(a;(`T%a",
   ";%`T0a;0`T$a;$#$`<(a#(fH(fI(`>(a%(#%^10^Q0^50^U0^9L^YLeE(eF(dK0hB0^T0#&^1%^Q%#%^8$^X$`=%a$%`>%a%%`P%a7%^+3^K3^+5^K",
   "5^/3^O3^/5^O5^33^S3^35^S5^93^Y3^95^Y5^<3_#3^<5_#5^?3_&3^?5_&5^=J_$J^>J_%J#%^20^R0#)^++^K+^/K^OK`N(a5(`M(a4(^9+^Y+f",
   "P(fQ(^C(_*(#aOjF%#^*_Y%m$%#$m(%m*%m,%#$m2%#$m8%m<%n$%#<m,,m8,mD%mH%mJ%mL%n%%#<mL,mX,mR%mX%n#%#'n,%n,,#No6$o6,#$o4%",
   "#&o',#'o;%o9$oD*#-o9*#BoY*#9oV$oV,#$oT%#&p>,#'o[%oY$p+*#:q#3q$3#^3o7*oW*#0o1*oQ*o1,oQ,#%o6*oV*#%rN,rO,o7,oW,o8,oX,",
   "#%o9(oY(o9,oY,o?,p&,#%s%,s&,oN,p5,oD(p+(oD,p+,oD/p+/oH,p/,#%oL,p3,#`s9^+I^KI^,+^L+^,G^LG^,U^LU`?%a&%^.+^N+^.G^NG^.",
   "U^NU^.K^NK^.Q^NQaQ$aR$aQ%aR%^/Q^OQ^/T^OTfJ*fK*^0+^P+^1(^Q(^2+^R+^2G^RG^2,^R,^2K^RK^2R^RR^3T^ST`G%a.%^5%^U%^5G^UG^5",
   "U^UU^6G^VGalJ(alK(^6U^VU^6Q^VQ^7%^W%^7+^W+^7G^WG^8+^X+^8G^XG^8U^XU^8Q^XQ`M%a4%`M,a4,bR$bS$bR%bS%^:%^Z%^:+^Z+^<+_#+",
   "^<G_#Gam5(am6(^<U_#U^=+_$+^=G_$Gc'+c(+c-+c.+am=+am>+^>+_%+^>G_%G^>U_%U^>Q_%Q^?H_&H^?T_&T^?Q_&Qc5%c6%c7,c8,^@'_''^@",
   "G_'G^A$_($^A%_(%^A,_(,^A+_(+^AG_(G^B+_)+^B,_),^C+_*+^D&_+&^DG_+G^DU_+U^RU_%,_(._*.#$cL+#'^+G^KG^+-^K-`:%`Z%`:$`Z$`",
   ":-`Z-`:'`Z'anB&anC&aA%aB%aA$aB$aA-aB-aA'aB'anB*anC*^/G^OG^/-^O-^/'^O'`B%a)%`B$a)$`B-a)-`B'a)'anZ&an[&^3-^S-^3G^SG^",
   "9G^YG^9-^Y-`L%a3%`L$a3$`L-a3-`L'a3'ao5&ao6&d4%d5%d4$d5$d4-d5-d4'd5'd4Gd5G^?G_&G^?-_&-dC%dD%dC$dD$dC-dD-dC'dD'dCGdD",
   "G^C$_*$^CG_*G^C-_*-^C'_*'#)mD7mD8ap0$ap1$ap0%ap1%ap0^-ap1^-m$7m$8ap8$ap9$ap8%ap9%ap8^-ap9^-mH7mH8ap@$apA$ap@%apA%#",
   "%m(7m(8apH$apI$apH%apI%#%mJ7mJ8apP$apQ$apP%apQ%apP^-apQ^-m*7m*8apX$apY$apX%apY%apX^-apY^-mL7mL8aq'$aq($aq'%aq(%aq'",
   "^-aq(^-m,7m,8aq/$aq0$aq/%aq0%aq/^-aq0^-mR7mR8aq7$aq8$aq7%aq8%#%m27m28aq?$aq@$aq?%aq@%#%mX7mX8aqG$aqH$aqG%aqH%aqG^-",
   "aqH^-#$m88#$aqP$#$aqP%#$aqP^-n#7n#8aqW$aqX$aqW%aqX%aqW^-aqX^-m<7m<8ar&$ar'$ar&%ar'%ar&^-ar'^-mD$#$mH$#$mJ$#$mL$#$m",
   "R$#$mX$#$n#$#&ap0^0ap1^0ap2^0ap3^0ap4^0ap5^0ap6^0ap7^0ap8^0ap9^0ap:^0ap;^0ap<^0ap=^0ap>^0ap?^0apP^0apQ^0apR^0apS^0",
   "apT^0apU^0apV^0apW^0apX^0apY^0apZ^0ap[^0aq#^0aq$^0aq%^0aq&^0aqW^0aqX^0aqY^0aqZ^0aq[^0ar#^0ar$^0ar%^0ar&^0ar'^0ar(^",
   "0ar)^0ar*^0ar+^0ar,^0ar-^0mD*mD(ar.^0mD^0m?^0#$mD^-as;^0m$*m$(m$$#$m$^0#'_Y^-ar2^0mJ^0mA^0#$mJ^-asK^0m($#$m*$#$m*^",
   "0asD$asD%asD^-mL*mL(n$$#&mL^-n$^-m,*m,(m,$#%atJ$atJ%atJ^-mX*mX(n%$#$mT7mT8mX^-n%^-m8*m8(m8$#$m48_Y$#'ar:^0n#^0n(^0",
   "#$n#^-atB^0m2$#$m<$#$m<^0"])

def otherPairs : List (Nat × Nat × Nat) := pairImages 0 0 (numbers
  ["#xBxGy:xGy;y/y;xGy<y1y;#_J^]Jy;#$^]6y;#3^]Gy;#g>^h*^h>#*^h2^h>#%^h5^h>#F^gP^h>^gQ^h>^gR^h>^gW^h>^h#^h>^h$^h>^h-^h>",
   "^h1^h>#^U^jW^jN^jW^k.#2^j1^jL^j2^jL#$^j?^jL#^=^lP^lZ#%^lV^lZ#E^l4^lZ^l5^lZ^l:^lZ#%^lI^lZ#a(^qH^qW#%^qH^q?^qH^qX#2^",
   "p[^q=^q#^q=#Y^rZ^t-#X^sU^sM^sV^sM^sU^t-#_,^v*^v:#_(^x1^xG#)^x8^xG^x8^xH#$^x8^x4^x<^xG#_/^zF^z>^zG^z>^zF^zW#_>__._^",
   "X#$__.__$__1_^X__.__4#c1_eA_gD#,_eK_gD#'_eP_gD#'_eU_gD#'_eZ_gD#/_e?_gB#,_f7_f8#$_f7_f:_g?_fF#$_g@_fF#+_f7_fF#4_fX_",
   "gD#,_g)_gD#'_g._gD#'_g3_gD#'_g8_gD#/_fV_gB#^V_i@_iI#^oRa^7a_.#$a^9a_.#$a^;a_.#$a^=a_.#$a^?a_.#&a^Ca_.#Ka_3a_.#$a_5",
   "a_.#%a_7a_.a_8a_.#$a_;a_.#y=b]Mk=b]Ok=#5b]Qk=#Ab^Tk=b^Xk=b^Vk=#Wb_Nk=#'b_Sk=#%b_Vk=#:b`5k=#$b`7k=#=b`Nk=#%b`Uk=#%b",
   "`Wk=#$b`Zk=#9^'k=#$ba:k=#-ba&k=^&k=^(k=ba=k=ba>k=#%baKk=baLk=#%baOk=baPk=#)baSk=baTk=#%ba[k=bb#k=#%bb&k=bb'k=#EbbB",
   "k=bbHk=bbIk=bbKk=#SbaUk=baVk=bb1k=bb2k=#)bbRk=bbSk=bbTk=bbUk=#^bFci@k=#u:dcVde2#$dcXde2#$dcZde2#$dd#de2#$dd%de2#$d",
   "d'de2#$dd)de2#$dd+de2#$dd-de2#$dd/de2#$dd1de2#$dd3de2#%dd6de2#$dd8de2#$dd:de2#)ddAde2ddAde3#$ddDde2ddDde3#$ddGde2d",
   "dGde3#$ddJde2ddJde3#$ddMde2ddMde3#9dcQde2#,de6de2#0deDde2#$deFde2#$deHde2#$deJde2#$deLde2#$deNde2#$dePde2#$deRde2#",
   "$deTde2#$deVde2#$deXde2#$deZde2#%df$de2#$df&de2#$df(de2#)df/de2df/de3#$df2de2df2de3#$df5de2df5de3#$df8de2df8de3#$d",
   "f;de2df;de3#9de?de2#%dfOde2dfPde2dfQde2dfRde2#&dg$de2#^]dNw2vF#$wKvI#-wBvSwBvT^doDvS^doDvTw)vIw)vJw)vNw*vNw+vNw,vN",
   "w-vNw.vNw/vN#$w1vNw2vNw3vNw4vNw5vN#$w7vN#$w9vNw:vN#$w<vNw=vN#$w?vNw@vNwAvNwBvNwCvNw.vKw*vQw4vQw=vQ#`bG^gu4^guU#$^g",
   "u6^guU#1^gu@^guU#_3^gwZ^gwP^gw[^gwP#f=^hc6^hc-^hc6^hcF#c;^hiR^hiS^hiR^hiI#$^hiR^hiV#a:^hn4^hn+^hn5^hn+#lH^i_Z^i_U#",
   "xn%_fpY_fq._fpZ_fq._fq(_fq7_fq(_fq8_fq(_fq9_fq(_fq:_fq(_fq;#^@_frI_fq._frJ_fq._frK_fq7_frL_fq7_frK_fq8_frL_fq8"])

def unusedForms : List (Nat × Nat) := runs 0 (numbers
  ["kI$x3+_-%$$^=$%$E&%$a<%n?$,$'$'$'$/$,$$%$$+$4$,$'$'$'$/$a^T$^^b4$$$-0$($$$%$%$,^_^9*^@)"])

/-! ## One form for each text -/

def markClass (c : Char) : Nat :=
  ((markClasses.find? fun r => r.1 ≤ c.toNat && c.toNat ≤ r.2.1).map (·.2.2)).getD 0

def pairForm? (c : Char) : Option (Char × Char) :=
  ((letterPairs.find? (·.1 == c.toNat)).or (otherPairs.find? (·.1 == c.toNat))).map fun e =>
    (Char.ofNat e.2.1, Char.ofNat e.2.2)

def variantForm? (c : Char) : Option Char :=
  ((variantForms.find? (·.1 == c.toNat)).or (ideographForms.find? (·.1 == c.toNat))).map fun e =>
    Char.ofNat e.2

def syllableLetters? (c : Char) : Option (List Char) :=
  if 0xAC00 ≤ c.toNat && c.toNat < 0xD7A4 then
    let n := c.toNat - 0xAC00
    let lead := Char.ofNat (0x1100 + n / 588)
    let vowel := Char.ofNat (0x1161 + n % 588 / 28)
    some (if n % 28 == 0 then [lead, vowel] else [lead, vowel, Char.ofNat (0x11A7 + n % 28)])
  else none

def partsOf : Nat → Char → List Char
  | 0, c => [c]
  | fuel + 1, c =>
    if c.toNat < 0xC0 then [c]
    else match syllableLetters? c with
      | some letters => letters
      | none => match pairForm? c with
        | some (a, b) => partsOf fuel a ++ [b]
        | none => match variantForm? c with
          | some d => partsOf fuel d
          | none => [c]

def placeMark (c : Char) : List Char → List Char
  | [] => [c]
  | d :: rest => if markClass c < markClass d then d :: placeMark c rest else c :: d :: rest

def decomposed (cs : List Char) : List Char :=
  ((cs.flatMap (partsOf 4)).foldl (fun done c =>
    if markClass c == 0 then c :: done else placeMark c done) []).reverse

def syllable? (a b : Char) : Option Char :=
  let m := a.toNat
  let n := b.toNat
  if 0x1100 ≤ m && m < 0x1113 && 0x1161 ≤ n && n < 0x1176 then
    some (Char.ofNat (0xAC00 + ((m - 0x1100) * 21 + (n - 0x1161)) * 28))
  else if 0xAC00 ≤ m && m < 0xD7A4 && (m - 0xAC00) % 28 == 0 && 0x11A7 < n && n < 0x11C3 then
    some (Char.ofNat (m + (n - 0x11A7)))
  else none

def joined? (a b : Char) : Option Char :=
  (syllable? a b).or <|
    let used (e : Nat × Nat × Nat) : Bool := e.2.1 == a.toNat && e.2.2 == b.toNat
      && !unusedForms.any fun r => r.1 ≤ e.1 && e.1 ≤ r.2
    ((letterPairs.find? used).or (otherPairs.find? used)).map fun e => Char.ofNat e.1

structure Joining where
  done : List Char := []
  letter : Option Char := none
  marks : List Char := []

def Joining.all (j : Joining) : List Char := j.marks ++ j.letter.toList ++ j.done

def Joining.add (j : Joining) (c : Char) : Joining :=
  let near := match j.marks with
    | [] => true
    | m :: _ => markClass m < markClass c
  match (if near then j.letter.bind (joined? · c) else none) with
  | some l => { j with letter := some l }
  | none =>
    if markClass c == 0 then ⟨j.all, some c, []⟩ else { j with marks := c :: j.marks }

def composed (cs : List Char) : List Char :=
  ((decomposed cs).foldl Joining.add {}).all.reverse

end CloudSpend.Text
