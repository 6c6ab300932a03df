/-! # Classes of characters -/

namespace CloudSpend.Text

def inRanges (ranges : List (Nat × Nat)) (c : Char) : Bool :=
  ranges.any fun r => r.1 ≤ c.toNat && c.toNat ≤ r.2

def numbersFrom (lead : Nat) : List UInt8 → List Nat
  | [] => []
  | c :: rest =>
    if 93 ≤ c.toNat then numbersFrom (30 * lead + (c.toNat - 93)) rest
    else (57 * lead + (c.toNat - 35)) :: numbersFrom 0 rest

def numbers (parts : List String) : List Nat := numbersFrom 0 (parts.flatMap fun part => part.toUTF8.data.toList)

def numberLists (parts : List String) : List (List Nat) :=
  ((String.join parts).splitOn " ").map fun word => numbers [word]

def runs (start : Nat) : List Nat → List (Nat × Nat)
  | gap :: size :: rest =>
    (start + gap, start + gap + size - 1) :: runs (start + gap + size) rest
  | _ => []

def imageRuns (start : Nat) : List Nat → List (Nat × Nat × Nat)
  | 0 :: gap :: size :: image :: rest =>
    (start + gap, start + gap + size - 1, image) :: imageRuns (start + gap + size) rest
  | image :: rest => (start, start, image) :: imageRuns (start + 1) rest
  | [] => []

def wordRuns (base start : Nat) : List (List Nat) → List (Nat × Nat × List Nat)
  | (0 :: gap :: size :: word) :: rest =>
    (start + gap, start + gap + size - 1, word.map (base + ·)) :: wordRuns base (start + gap + size) rest
  | word :: rest => (start, start, word.map (base + ·)) :: wordRuns base (start + 1) rest
  | [] => []

def words (start : Nat) : List (List Nat) → List (Nat × List Nat)
  | (gap :: word) :: rest => (start + gap, word) :: words (start + gap + 1) rest
  | _ => []

def shiftRuns (start : Nat) : List Nat → List (Nat × Nat × Nat × Int)
  | gap :: span :: step :: image :: rest =>
    (start + gap, start + gap + span, step, (image : Int) - (start + gap : Nat))
      :: shiftRuns (start + gap + span) rest
  | _ => []

def images (start : Nat) : List Nat → List (Nat × Nat)
  | 0 :: gap :: image :: rest => (start + gap, image) :: images (start + gap + 1) rest
  | image :: rest => (start, image) :: images (start + 1) rest
  | [] => []

def pairImages (base start : Nat) : List Nat → List (Nat × Nat × Nat)
  | 0 :: gap :: a :: b :: rest => (start + gap, a, base + b) :: pairImages base (start + gap + 1) rest
  | a :: b :: rest => (start, a, base + b) :: pairImages base (start + 1) rest
  | _ => []

def blankRanges : List (Nat × Nat) :=
  [(0x9, 0xD), (0x1C, 0x20), (0x85, 0x85), (0xA0, 0xA0), (0x1680, 0x1680), (0x2000, 0x200A),
   (0x2028, 0x2029), (0x202F, 0x202F), (0x205F, 0x205F), (0x3000, 0x3000)]

def isBlank (c : Char) : Bool := inRanges blankRanges c

def trimStart (s : List Char) : List Char := s.dropWhile isBlank

def trimEnd (s : List Char) : List Char := (s.reverse.dropWhile isBlank).reverse

def trim (s : String) : String := String.ofList (trimEnd (trimStart s.toList))

/-! ## Digits of every script -/

def digitRanges : List (Nat × Nat) := runs 0
  [178,2,5,1,1446,10,134,10,198,10,412,10,118,10,118,10,118,10,118,10,118,10,118,10,118,10,118,10,118,10,96,10,118,10,
   70,10,278,10,70,10,719,9,1134,10,38,10,300,10,128,11,165,10,6,10,182,10,86,10,134,10,6,10,1046,1,3,6,6,10,982,9,11,
   9,11,9,89,1,10,9,1,1,630,9,1,9,1,9,32397,10,678,10,38,10,198,10,22,10,86,10,406,10,21270,10,1414,10,1430,4,748,10,
   294,9,489,9,11,10,128,10,60,10,144,10,278,10,342,10,118,10,374,10,102,10,102,10,422,10,102,10,758,10,246,10,70,10,
   19638,10,86,10,134,10,27764,50,2368,10,422,10,1622,10,1958,11,2789,10]

def isDigit (c : Char) : Bool := c.isDigit || inRanges digitRanges c

def decimalValue? (c : Char) : Option Nat :=
  let places (r : Nat × Nat) : Nat :=
    if r.1 == 0x2080 || r.1 == 0x1F100 then 0 else (r.2 + 1 - r.1) / 10 * 10
  if c.isDigit then some (c.toNat - 48)
  else (digitRanges.find? fun r => r.1 ≤ c.toNat && c.toNat < r.1 + places r).map fun r => (c.toNat - r.1) % 10

/-! ## Letters and word characters -/

def letterRanges : List (Nat × Nat) := runs 0 (numbers
  ["_[$-$'$(:$B$e%'/1(*$$$_2($%%'$$)$$&$$$7$^=$_<+_W$I%$)L^1>''PNF%$^M$$2%*%-&%$3$$A@^C.$;D,%'$(9'$,$&$:<*.(;$)4M^$Y&$",
   "5$*-23'+%%%9$*$$&'&$3$0%$&1%-$+)'%%9$*$%$%$%B'$$6&3,$&$9$*$%$(&$5$2%:$.+%%%9$*$%$(&$A%$&2$4$$)&&$'&%$$$%&%&&&/9$W+",
   "$&$:$3&$=&%$%%A$'+$&$:$-$(&$B%$%2%4,$&$L%$3$(&+&;)(5&;$,$$%*^$S$%/*^$%$$$($;$$$-$%,$%($$8'C$^)+$G>(_$N7$3)''&$&%*&",
   "'0/$4I$$($%N$bS$'%*$$$'%L$'%D$'%*$$$'%2$^#$'%^-H33^@%)&gU%4$=(^5)+*5061510$&2WF$'$^-^C*(%E$$(^0-BTA%(.O'=Y:,X^<$^G",
   "R4+YA0%-O=GL&-G%,*N%&L'$)$%&$(`8^*aU%)%I%)%+$$$$$$$B%X$*$$&&$*&'%)'0(&$*_%$0$30^O$'$%-$$&()$$$$$$'$.%'(('$W%^n'a$)",
   "'&%/I$$($%[*$3:,*$*$*$*$*$*$*$*^:$e0%M((%'^@)&$^D$'(N$^H4CS3e[`vH^*iyL^-Q%aL&3-%7R3B%^0T,%^Q%^*(%$$$(;3$&$'$:@W1U^",
   "()&$$%.?-:<@*R?$3($--($L:&$+7:&$&U$$&%%(%$$$;&%.*&/)%)%),*$*$N$1)_$@cm#/:'Tay3c;%^TI*/(($$-$0$($$$%$%$^VDc85^*%YK/",
   "_%($_8G=)=.^C&)%)%)%&F/$=$6$%$2%1E_,cR@&TRC07$+)I-A%G'+S_O5G'G'K+W/.$2$*$%$.$2$*$%^-b=,9-+;)$M$,^/)%$$O$%&$%:-:,B^",
   "+6$%-9-=^0[)%^*$2'$&$@M@&@F+$?>Y-9-605^X^3ZV0V0Gc)M)%^8@-$+9M5Q8>:/X^#%%$0PC<=G@$%$+F&$/S1'8$$$F5$<^>*$$$'$2$-*RI+",
   "%%%9$*$%$(&$5$/(_OX5'7&AS7%$$`0RL'GS7$^%N0$^1>H*`1O_%^*B+%$%+$%$;2$$$^H+%J3$$$?$-K*$8$.Q6$5^3aF,$H4$TA^Z*$%$I8$<)$",
   "%$C1$bM6`5$^9m-a%`<^m1^K2oP_h%g0b^=f[*B4^94A5S3'B8(6i'^*_1^5($^,0^*%$$?`nH+rLM,bcN'$*$%$b)P&4'+cY^g?^U(0&,*-`l(^?$",
   "^1$%%$%%%'$/$$$*$^+$'%+$*$?$'$($$&*$bZ%<$<$B$<$B$<$B$<$B$<$+^_7Be<P-*3$bGA5Os1*$'$%$2$`=^%^.*$r*'$>$%$$%$$-$'$$$$)",
   "$'$$$$$$&$%$$%$$$$$$$$$$%$$%'$*$'$'$$$-$4(&$($4_nBuz>C_iT*`V%`h(1ah)^u<f@w;_wH"])

def numericRanges : List (Nat × Nat) := runs 0 (numbers
  ["`*%($%&v3-_7-`>-d0-_'-')^V-_'-_'-%)^X0_$-+*^Q-^R**6^W-^J-_'-^07aK-^0-iF7l=&a.-)-9-b2-_1._V-)-`.-^@-_7-)-o7$&))-`>V",
   "%(iM^&^89h&Au4$jG$<,1&c$'_;-A+$2C-J2ne--`4-bF)_K-I-`>-9-^@-d*-ij,-eHP/^#4%b[>G'@$+$_7(`B-mA+<*J,^5(9)_Q%%3%Q^*,W%A",
   "&^5(^R+;+L*bP)S-b,B_O-M'^Z*_7A_1-^&-_A-*7a:-c#-_'-cC-^P-^P/d86^G-j4@`[-^0-f88oL^Ygk*-^@-_7-$*k#:l]:7^V<p=U^hB-d:-w",
   "&,_1-jU^%$&$'^6P$2mU0^oV-"])

def isLetter (c : Char) : Bool :=
  c.isAlpha || (128 ≤ c.toNat && inRanges letterRanges c)

def isWordChar (c : Char) : Bool :=
  c.isAlphanum || (128 ≤ c.toNat && (inRanges letterRanges c || inRanges numericRanges c))

/-! ## Combining marks -/

def nonspacingRanges : List (Nat × Nat) := runs 0 (numbers
  ["j>^ZaR*aFP$$$%$%$$^2.S83$^O*%)%%$'F$A>^E.^$,,$;'$,$&$(N&^&+M;$CZ$$$'+'$&*-%@$^$$''+$7%=$%%^#$'%'%%&&$A%&$.%^#$'($%",
   "'$7%9)$$^$$%$$'+$*%.%A$^'$/$U$&$Z$$&(&$'*%.%@$^$$%$)$(%7%?%^#%''+$7%@$^2$*&$$^D$%*/+^L$%,.)^4%>$$$$$Z1$($%(.$G,$^P",
   "'$)$%%%<%'&3'0$%%)$2$i6&mE&@%A%A%^*%$*+$%.,$P&$$_&%E$_'&'%,$)&`S%%$^$$$*$$$$%+)-%$SBT'S$$($$($K,/%C'%%$&[$$%&$$&^$",
   "+%%_I&$0$*'$)$&%`>^*iGD^tT&_>$^JCfL'^U%np.'$-C%^:%aO$&$'$<%($_H%=50$I+<.Q&S$%'%%J$^-)%%%%/$+$R$V$$&%%(%$$M%+$a-$%$",
   "'$hvH$iX333n'$`Z$_F(z4&$%('K&'$_V%g&'cP%_J.T'_,$Y2L$%%-&T'%%*$^'&G($+^($/%W,-'%$^I&%$$%)$_Q$&+8%^#%&$H*&(`;+%&$$:$",
   "^>)$$'%$%a-')%$%>%^?+%$$%^T$$$%)$$^O&%'$(aB,$%a?%$$'$_A'%%'$C-K)%'+$,)%&Q0$%d**$)$$^<9%*$%$%_+)&$$%$*$$^2%&$$$c(%h",
   "h1(^%*o9$^)'^;$hkC%_sBQ%:fB&4+%*A'_E&^aLZ'U+$1$9($2tT*$4%*$%$(aD*cD$^''w9*^W*ljjAa/"])

def spacingRanges : List (Nat × Nat) := runs 0 (numbers
  ["^g>$Z$%&+'$%U%^$&)%%%-$N$^$&^,$^$&+$$%X%^$$$$)%%%-$^P%$%&&$&-$L&^''^'%^$$$(%%$%,%N%^$&(&$&-$M%^5&)+5%bP%^)$`#%'$)$",
   "%%<%-&%*8%%)%$-&z&$A$_2$*+$%c''%&'%$)`X%^$$$$,$$%+)_B$S$($$($%^'$A$'%%$^&$%&$$&%S++%`#$8$_w3%nyL%%$^B%U3_?%R$S%'%%",
   "&^X%%%;$P$$$^W$%%($a,%$%$%$$kz=$$$_0$P&'%_$$;%^%$S&,%0$^G&&%$$_[&B%^$%$'%%%&,$-%`I&+%&$^T&)$$'%$a,&)'%$^[&+%$$^W$$",
   "%)$^S%'$aD&,$a6)$%'$%$$$_?&+''$^>$@%^($d+$1$^T$*$%$`M('%$$c+%i]UZ^R%knI%))"])

def isNonspacing (c : Char) : Bool := inRanges nonspacingRanges c

def isMark (c : Char) : Bool := isNonspacing c || inRanges spacingRanges c

def ignorableRanges : List (Nat × Nat) := runs 0 (numbers
  ["J$)$.$F$$$^1$'$$$'$%%eR^:_%%'$,%$$e,$($_E$.)9$F$_M$*%K$a#%'$B$,$&$^I$*%Z$;$_?$rJ$_0$fW$^]O$Y$W$gL$e+)`&^)0$EHeX$$&",
   ".&0&0&0%/(+%-$%$%(T($-$$0$30^t5%a0$`7$e0$N(($^I'^G&moW$rX)aM$_#$?%^LE^8$:&^Q&&%e0$9$_:$^V$8%^P(,&i]A4g9$^($%$_Z$*$",
   ")$.$F$$$R$P%^-$8&^`N)$M$,^g=$2$beW,ed+'p70^*%$$fnH'$*$%^wL'``=+_gI*^c,$^n[(lhqZ$A^J"])

def isIgnorable (c : Char) : Bool := isNonspacing c || inRanges ignorableRanges c

/-! ## Printable characters -/

def unprintableRanges : List (Nat × Nat) := runs 0 (numbers
  ["_1D/$iA%)'*$$$7$cZ$I%U%&$Z+>')49$`8$S%^%%^O1^%%T%2$?%$$.(B,^4$_R$+%%%9$*$$&'%,%%%'+$'%$(%<%&$)'%%9$*$%$%$%%$$('%%&",
   "&$*'$$*4-&$,$&$9$*$%$(%-$&$&%$2'%/**$&$+%%%9$*$%$(%,%%%&*&'%$(%5-%$)&&$'&%$$$%&%&&&/'(&&$'%$)$18(0$&$:$3%,$&$'*%$&",
   "%$%'%-*9$&$:$-$(%,$&$'*%)%$'%-$%00$&$V$&$)'3%=$&$5&;$,$$%*&$')$$$+)-%&/^$'@H%$$$($;$$$:%($$$)%-%'C^2$G'J$G$2$0H`>$",
   "$($%cF$'%*$$$'%L$'%D$'%*$$$'%2$^#$'%^-%C&=)^@%)%h0$?&^C*9,;,7/0$&$%/^H%-)-)1$.)^C*N(^0-B$/'/'$&M%(.O'=).&^(%^+$@%.",
   ")-)1%BT^7&R$_%+^&&2&^&*N%.+N(f8%)%I%)%+$$$$$$$B%X$2$1%)$6%&$,4;+R4%%>$0&D2D2_='hG<.8^^P%C$c*(P$$($%[*%1;,*$*$*$*$*",
   "$*$*$*$_/E=$^C/`N=/(^)$^@%^Q(N$^H$^>/R$n`W&Z,c)7`0+`C(%$$$(;^%&-)[+^0+/)_%.A&^8$.'D$Z,1%-%^Q;?-)%)%),*$*$^&'_/%-)c",
   "m#/:'T'^bX`s3c;%^TI*/((=$($$$%$%$_.3dQ%Y*$CM)V$6$''($_8'`6&)%)%)%&&*$*0%%/$=$6$%$2%1E_,(&'P&^B$0&$RQ_3@&T2?'G,A(N(",
   "A$H'1M_O%-)G'G'K+W./$2$*$%$.$2$*$%^-b=,9-+;)$M$,^/)%$$O$%&$%:$^2+,S6$%(D&>($^*['7%U$%(+$&$@%&'-*,*^*CJ'/,Y&@%>(=*'",
   "/*^:^3ZV0V*Q+-b,B$M$&%%^8K+M9=I?7:,^8'G,^($(0<*-)X$5+J,^J$7.5$O^+*$$$'$2$.)^%(-)'$+%%%9$*$%$($-%%%&%$)$(*%*&(_<^F$",
   "(A^2+-_WY%IE^/.-)06^$)-Y>%2':`1^&^N^=/+%$%+$%$A$%%/,-^0+%Q%.>^2+^=0^3aF,$P$1-@&C%9$1^3*$%$O&$$%$,+-))$%$H$%$)*-b<<",
   "`/$2U0m.^P^Y$(.`<^m1^M0oP_h%g0b^=f[*B$-'^;$-)A%)-^0--$*$8(6i'^E^O^5'^#*4^*(.%1`nH+rLM,bcN'$*$%$b)P&4'+cY^g?^U(0&,*",
   "-%'_sAQ%:,_%^&a5-J%^4+^Z8^0_K7/^A,<_8^?$^1$%%$%%%'$/$$$*$^+$'%+$*$?$'$($$&*$bZ%b*%i52($2p8B`Y*$4%*$%$(`MP&1%-'%bFB",
   "4^$($rV*$'$%$2$`=%3L^6'-'%jO^.^6^'`:'$>$%$$%$$-$'$$$$)$'$$$$$$&$%$$%$$$$$$$$$$%$$%'$*$'$'$$$-$4(&$($4W%aMO'^N/2%2$",
   "2$H-`&[@0O',*%1)_Kn2(3&0&_%/^C*/'$2/'[+-)K+A%%^8bZ/1%(&(&*,@&.()--)++*,_D$ZH-o'uz>C_iT*`V%`h(1ah)^u<f@w;_wHjyv+a/`",
   "uqC"])

def isPrintable (c : Char) : Bool :=
  if c.toNat < 127 then 32 ≤ c.toNat
  else c.toNat ≠ 127 && !inRanges unprintableRanges c

end CloudSpend.Text
