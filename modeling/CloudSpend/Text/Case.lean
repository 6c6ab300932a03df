import CloudSpend.Text.Character

/-! # Capital and small letters -/

namespace CloudSpend.Text

def lowerRuns : List (Nat × Nat × Nat × Int) := shiftRuns 0 (numbers
  ["`89$`X%)$a7EQ%a@''%b9&1%b@&O%bQ%#$a>$'%cG'#$g<$%%cP%#$g=$#$cU%$$g?$#$cY&#$e8$#$gB$#$gD$#$d&%#$gI$#$gL%#$gR$#$gQ$#$",
   "d-'#$gX$#$g[%#$h%$'%d5%#$h0$#$d<%#$h3&#$dA%#$h8$#$dD%$$h:$%%dH%#$hB$#$dM'#$dQ+#$dZ$#$dZ%#$e$$#$e$%#$e'$3%e'&3%e:&#",
   "$eN$%%eN%#$d)$#$dS$I%eT%#$d2%3%fE+#$cp9$#$g%%#$d.$#$cp:&#$g+%#$cM$#$h9$#$h<$+%g0b(%%l='#$lC,#$nM*#$m?%%$m@%#$n&%$$",
   "n'%3$mD%+$mVG#$n1,9%n3)#$mK&#$nR%#$nL$#$nU&%$lG$2$p8$B$oQTC%pI-W%q:%#$rE$/%r8&^H%rG&H$u,^qKH$cs)%#$csP)#$csViJ^9$v",
   "pZ$($_zJ^eHM$_l@&%$_m4bG_E%akN-#$`W%^H%anC-*$ap0,($ap@.*$apP,*$aq',($aq7/)%aqH,*$aqW<*$ar>,*$arN,*$as%,$$as5$$$ar.",
   "$#$as8/&$ar0$#$asH/$$asU$$$ar40$$at,$$$ar8$#$at1/$$ar6$$$ar:$#$at?b0#$n#'#$^U$#$a$*#$azDQ2$b]-7#$b]Ak8<$bl6^_4R$co",
   "=T#$cp5%#$gT$#$ai<$#$h-&'%cp<%#$g:$#$gZ$#$g9$#$g;%#$cpG&#$cpJ,$$g($^L%cpU,%%crN(#$crUoaQO%uwJ7=%uxQ_9/%v]H'^&%v]X.",
   "%%v_-%#$ai8$+%v_2(#$v_?%#$gN&%%v_D'5%v_J%#$gO$#$gE$#$gJ$#$gU$#$gS%#$hN$#$h7$#$hM$#$vp=$1%v`/%#$v_G$#$h2$#$aiM$%%v`",
   "B*#$v`K)%%v`Q@#$va7j^@<$^ec:r<J$^ey;_:F$^f^@_N-$^faT%1$^fb'%)$^fb7%$$^fb?^^'U$^gd$^tDB$^i]Wiu$B$^uv>ogND$_jcQ"])

def inRun (n : Int) (r : Nat × Nat × Nat × Int) : Bool := r.1 ≤ n && n ≤ r.2.1 && (n - r.1) % r.2.2.1 == 0

def borrowedCapitals : List (Nat × Nat) := images 0 (numbers
  ["#`-m/#_,^3#^7^=#^/dX#%d[#%e%#IeL#bXm,#_-m6#0m%m+#&m9m3#<m-m4#&m(#`q/o3o5o?oBoCoCoKpJuwS#f4am;#b(m,"])

def upperExpansions : List (Nat × List Nat) := words 0 (numberLists
  ["`W^=^= ^Si3^8 _W^4jJ d3m,jFj? Bm8jFj? e1t9tV `sA^2k6 #^>jF #^AjH #^CjH #^+i5 `-m8jQ $m8jQj> $m8jQj? $m8jQkG Lap8m,",
   " #ap9m, #ap:m, #ap;m, #ap<m, #ap=m, #ap>m, #ap?m, #ap8m, #ap9m, #ap:m, #ap;m, #ap<m, #ap=m, #ap>m, #ap?m, #apXm, #",
   "apYm, #apZm, #ap[m, #aq#m, #aq$m, #aq%m, #aq&m, #apXm, #apYm, #apZm, #ap[m, #aq#m, #aq$m, #aq%m, #aq&m, #ar&m, #ar",
   "'m, #ar(m, #ar)m, #ar*m, #ar+m, #ar,m, #ar-m, #ar&m, #ar'm, #ar(m, #ar)m, #ar*m, #ar+m, #ar,m, #ar-m, %as?m, #m$m,",
   " #lRm, $m$kG #m$kGm, 'm$m, (asOm, #m*m, #lUm, $m*kG #m*kGm, 'm*m, (m,jFj> #m,jFj? %m,kG #m,jFkG -m8jFj> #m8jFj? #m",
   "4jQ $m8kG #m8jFkG -atFm, #m<m, #l[m, $m<kG #m<kGm, 'm<m, ^_tG^0^0 #^0^3 #^0^6 #^0^0^3 #^0^0^6 #^=^> #^=^> /tHtJ #t",
   "Ht9 #tHt? #tRtJ #tHtA"])

def upperChar (c : Char) : List Char :=
  if c.toNat < 128 then [c.toUpper]
  else match upperExpansions.find? fun e => e.1 == c.toNat with
    | some e => e.2.map Char.ofNat
    | none => match borrowedCapitals.find? fun e => e.1 == c.toNat with
      | some e => [Char.ofNat e.2]
      | none => match lowerRuns.find? fun r => inRun (c.toNat - r.2.2.2) r with
        | some r => [Char.ofNat (c.toNat - r.2.2.2).toNat]
        | none => [c]

def upper (s : String) : String := String.ofList (s.toList.flatMap upperChar)

/-! ## Lower case and title case -/

def casedRanges : List (Nat × Nat) := runs 0 (numbers
  ["_[$-$'$(:$B$`;$''`H$G*%A(^J$M'%%%'$$)$$&$$$7$^=$_<+_W$I,L^pQI$$($%N%&hP^@%)^e/,*N%&^*`8^*aU%)%I%)%+$$$$$$$B%X$*$$&",
   "&$*&'%)'0(&$*_%$0$30^O$'$%-$$&()$$$$$$'$)'$%'(('$4C&%k6W^^Ra$)'&%/I$$($o`NQ5A_5^P&'$^%(%$$$(>%$&k:N$0*^:hvX*/(o*=)",
   "=qT^:^JG'G_%.$2$*$%$.$2$*$%dW$%&$M$,r;V0V^s<^*it<^*lbT^?$^1$%%$%%%'$/$$$*$^+$'%+$*$?$'$($$&*$bZ%<$<$B$<$B$<$B$<$B$",
   "<$+^_7-$7^k8^.^bD=)=)="])

def isCased (c : Char) : Bool :=
  if c.toNat < 128 then c.isAlpha else inRanges casedRanges c

def lowerChar (c : Char) : List Char :=
  if c.toNat < 128 then [c.toLower]
  else if c.toNat == 0x130 then ['i', Char.ofNat 0x307]
  else match lowerRuns.find? (inRun c.toNat) with
    | some r => [Char.ofNat (c.toNat + r.2.2.2).toNat]
    | none => [c]

def closesWord (before after : List Char) : Bool :=
  let nearest (cs : List Char) : Bool := (cs.dropWhile isIgnorable).head?.any isCased
  nearest before && !nearest after

def lowerFrom (before : List Char) : List Char → List Char
  | [] => []
  | c :: rest =>
    let small :=
      if c.toNat == 0x3A3 && closesWord before rest then [Char.ofNat 0x3C2] else lowerChar c
    small ++ lowerFrom (c :: before) rest

def lower (s : String) : String := String.ofList (lowerFrom [] s.toList)

/-! ### Title case -/

def titleRuns : List (Nat × Nat × Nat) := imageRuns 0 (numbers
  ["#dX$dY##$dY##$dY##$e###$e###$e###$e&##$e&##$e&#G$eM##$eM##$eM#_cMN_l@#%&_m4#_b*+arF##+arF##+arV##+arV##+as-##+as-#",
   "&$asA#+$asA#)$asQ#+$asQ#I$atH#+$atH"])

def titleForms : List (Nat × List Nat) := words 0 (numberLists
  ["`W^=_$ qVt9uM `x@as?kJ $lRkJ %m$kGkJ -asOkJ $lUkJ %m*kGkJ MatFkJ $l[kJ %m<kGkJ ^_tL^0^P #^0^S #^0^V #^0^P^S #^0^P^",
   "V #^=_% #^=_% /tHuA #tHu0 #tHu6 #tRuA #tHu8"])

def titleChar (c : Char) : List Char :=
  match titleForms.find? fun e => e.1 == c.toNat with
  | some e => e.2.map Char.ofNat
  | none => match titleRuns.find? fun r => r.1 ≤ c.toNat && c.toNat ≤ r.2.1 with
    | some r => [Char.ofNat (r.2.2 + (c.toNat - r.1))]
    | none => upperChar c

def titleFrom (before : List Char) : List Char → List Char
  | [] => []
  | c :: rest =>
    let form :=
      if !before.head?.any isCased then titleChar c
      else if c.toNat == 0x3A3 && closesWord before rest then [Char.ofNat 0x3C2]
      else lowerChar c
    form ++ titleFrom (c :: before) rest

def title (s : String) : String := String.ofList (titleFrom [] s.toList)

end CloudSpend.Text
