import BinaryCoverage.Unicode.CodeSet

/-!
# Simple case folding

Characters that differ in case alone fold to one character.  This file defines:

* `foldings` — the characters that fold to another one, with that other one;
* `caseVariants` — the characters that fold to the same one as a given character.
-/

namespace BinaryCoverage.Unicode

/-- Triples in base 36: the distance from the start of the last run, its length, its target. -/
def foldingRuns : String :=
  (String.join
    ["1t q 2p 38 1 qk b n 68 o 7 6w 14 1 75 2 1 77 2 1 79 2 1 7b 2 1 7d 2 1 7f 2 1 7h 2 1 7j 2 1 ",
      "7l 2 1 7n 2 1 7p 2 1 7r 2 1 7t 2 1 7v 2 1 7x 2 1 7z 2 1 81 2 1 83 2 1 85 2 1 87 2 1 89 2 1 ",
      "8b 2 1 8d 2 1 8f 4 1 8j 2 1 8l 2 1 8n 3 1 8q 2 1 8s 2 1 8u 2 1 8w 2 1 8y 2 1 90 2 1 92 2 1 ",
      "94 3 1 97 2 1 99 2 1 9b 2 1 9d 2 1 9f 2 1 9h 2 1 9j 2 1 9l 2 1 9n 2 1 9p 2 1 9r 2 1 9t 2 1 ",
      "9v 2 1 9x 2 1 9z 2 1 a1 2 1 a3 2 1 a5 2 1 a7 2 1 a9 2 1 ab 2 1 ad 2 1 af 2 1 73 1 1 ai 2 1 ",
      "ak 2 1 am 2 1 37 2 1 gj 1 1 ar 2 1 at 2 1 gk 1 1 aw 2 2 gm 2 1 b0 3 1 d9 1 1 gp 1 1 gr 1 1 ",
      "b6 2 1 gw 1 1 gz 2 1 h5 1 1 h4 1 1 bd 4 1 hb 1 1 he 2 1 hh 1 1 bl 2 1 bn 2 1 bp 2 1 hs 1 1 ",
      "bs 2 1 hv 3 1 bx 2 1 i0 1 1 c0 2 2 i2 2 1 c4 2 1 c6 2 1 ia 1 1 c9 4 1 cd 8 1 cm 1 1 cm 2 1 ",
      "cp 1 1 cp 2 1 cs 1 1 cs 2 1 cu 2 1 cw 2 1 cy 2 1 d0 2 1 d2 2 1 d4 2 1 d6 2 1 d8 3 1 db 2 1 ",
      "dd 2 1 df 2 1 dh 2 1 dj 2 1 dl 2 1 dn 2 1 dp 2 1 dr 3 1 dv 1 1 dv 2 1 dx 2 1 b9 1 1 cf 1 1 ",
      "e1 2 1 e3 2 1 e5 2 1 e7 2 1 e9 2 1 eb 2 1 ed 2 1 ef 2 1 eh 2 1 ej 2 1 el 2 1 en 2 1 ep 2 1 ",
      "er 2 1 et 2 1 ev 2 1 ex 2 1 ez 2 1 f1 2 1 f3 2 1 bi 2 1 f7 2 1 f9 2 1 fb 2 1 fd 2 1 ff 2 1 ",
      "fh 2 1 fj 2 1 fl 2 1 fn 8 1 8rp 1 1 fw 2 1 be 1 1 8rq 3 1 g2 2 1 ao 1 1 i1 1 1 i4 1 1 g7 2 ",
      "1 g9 2 1 gb 2 1 gd 2 1 gf 6v 1 qh 17 1 oh 2 1 oj 4 1 on 9 1 s3 7 1 q4 2 3 q5 4 1 r0 2 2 r1 ",
      "3 h q9 i 9 qr v 1 qr d 1 rb 1 1 qa 1 1 qg 4 1 qu 1 1 qo 2 1 rd 2 1 rf 2 1 rh 2 1 rj 2 1 rl ",
      "2 1 rn 2 1 rp 2 1 rr 2 1 rt 2 1 rv 2 1 rx 2 1 rz 2 1 qi 1 1 qp 3 1 qg 1 1 qd 2 1 s8 2 1 s2 ",
      "1 1 sb 3 3 or 3 g uo g w ts 28 1 v5 2 1 v7 2 1 v9 2 1 vb 2 1 vd 2 1 vf 2 1 vh 2 1 vj 2 1 v",
      "l 2 1 vn 2 1 vp 2 1 vr 2 1 vt 2 1 vv 2 1 vx 2 1 vz 2 1 w1 a 1 wb 2 1 wd 2 1 wf 2 1 wh 2 1 ",
      "wj 2 1 wl 2 1 wn 2 1 wp 2 1 wr 2 1 wt 2 1 wv 2 1 wx 2 1 wz 2 1 x1 2 1 x3 2 1 x5 2 1 x7 2 1 ",
      "x9 2 1 xb 2 1 xd 2 1 xf 2 1 xh 2 1 xj 2 1 xl 2 1 xn 2 1 xp 2 1 xr 2 1 y7 1 1 xu 2 1 xw 2 1 ",
      "xy 2 1 y0 2 1 y2 2 1 y4 2 1 y6 3 1 y9 2 1 yb 2 1 yd 2 1 yf 2 1 yh 2 1 yj 2 1 yl 2 1 yn 2 1 ",
      "yp 2 1 yr 2 1 yt 2 1 yv 2 1 yx 2 1 yz 2 1 z1 2 1 z3 2 1 z5 2 1 z7 2 1 z9 2 1 zb 2 1 zd 2 1 ",
      "zf 2 1 zh 2 1 zj 2 1 zl 2 1 zn 2 1 zp 2 1 zr 2 1 zt 2 1 zv 2 1 zx 2 1 zz 2 1 101 2 1 103 2 ",
      "1 105 2 1 107 2 1 109 2 1 10b 2 1 10d 2 1 10f 2 1 10h 2 1 10j 2 1 10l 2 1 10n 2 1 10p 2 1 ",
      "10r 2 1 10t 2 1 10v 3 12 129 29b 12 8w0 13 1 8x3 6 1 8x9 mj 6 3xs 1oo 1 tu 1 1 tw 1 1 u6 1 ",
      "2 u9 2 1 ua 1 1 ui 1 1 v7 1 1 wuj 8 17 3bk 19 3 3ct 8z 1 5xd 2 1 5xf 2 1 5xh 2 1 5xj 2 1 5",
      "xl 2 1 5xn 2 1 5xp 2 1 5xr 2 1 5xt 2 1 5xv 2 1 5xx 2 1 5xz 2 1 5y1 2 1 5y3 2 1 5y5 2 1 5y7 ",
      "2 1 5y9 2 1 5yb 2 1 5yd 2 1 5yf 2 1 5yh 2 1 5yj 2 1 5yl 2 1 5yn 2 1 5yp 2 1 5yr 2 1 5yt 2 ",
      "1 5yv 2 1 5yx 2 1 5yz 2 1 5z1 2 1 5z3 2 1 5z5 2 1 5z7 2 1 5z9 2 1 5zb 2 1 5zd 2 1 5zf 2 1 ",
      "5zh 2 1 5zj 2 1 5zl 2 1 5zn 2 1 5zp 2 1 5zr 2 1 5zt 2 1 5zv 2 1 5zx 2 1 5zz 2 1 601 2 1 60",
      "3 2 1 605 2 1 607 2 1 609 2 1 60b 2 1 60d 2 1 60f 2 1 60h 2 1 60j 2 1 60l 2 1 60n 2 1 60p ",
      "2 1 60r 2 1 60t 2 1 60v 2 1 60x 2 1 60z 2 1 611 2 1 613 2 1 615 2 1 617 2 1 619 2 1 61b 2 ",
      "1 61d 2 1 61f 2 1 61h 7 1 601 3 1 67 2 1 61t 2 1 61v 2 1 61x 2 1 61z 2 1 621 2 1 623 2 1 6",
      "25 2 1 627 2 1 629 2 1 62b 2 1 62d 2 1 62f 2 1 62h 2 1 62j 2 1 62l 2 1 62n 2 1 62p 2 1 62r ",
      "2 1 62t 2 1 62v 2 1 62x 2 1 62z 2 1 631 2 1 633 2 1 635 2 1 637 2 1 639 2 1 63b 2 1 63d 2 ",
      "1 63f 2 1 63h 2 1 63j 2 1 63l 2 1 63n 2 1 63p 2 1 63r 2 1 63t 2 1 63v 2 1 63x 2 1 63z 2 1 ",
      "641 2 1 643 2 1 645 2 1 647 2 1 649 2 1 64b 2 1 64d 2 1 64f a 8 64g g 6 64w g 8 65c g 8 65",
      "s g 6 668 h 1 66p 2 1 66r 2 1 66t 2 1 66v 9 8 674 w 8 680 g 8 68g g 8 68w g 2 69c 2 2 67k ",
      "2 1 69f 2 1 qh a 4 67m 4 1 69v c 2 6a8 2 2 67q e 2 6ao 2 2 67u 2 1 6at c 2 67s 2 2 67w 2 1 ",
      "6b7 8a 1 qx 4 1 2z 1 1 6d 7 1 6ku 1a g 6ls z 1 6mc mr q 79s 1fu 1c 8q8 2o 1 8rl 2 1 h7 1 1 ",
      "5tp 1 1 hp 3 1 8rs 2 1 8ru 2 1 8rw 2 1 gh 1 1 hd 1 1 gg 1 1 gi 2 1 8s3 3 1 8s6 9 2 fz 2 1 ",
      "8sh 2 1 8sj 2 1 8sl 2 1 8sn 2 1 8sp 2 1 8sr 2 1 8st 2 1 8sv 2 1 8sx 2 1 8sz 2 1 8t1 2 1 8t",
      "3 2 1 8t5 2 1 8t7 2 1 8t9 2 1 8tb 2 1 8td 2 1 8tf 2 1 8th 2 1 8tj 2 1 8tl 2 1 8tn 2 1 8tp ",
      "2 1 8tr 2 1 8tt 2 1 8tv 2 1 8tx 2 1 8tz 2 1 8u1 2 1 8u3 2 1 8u5 2 1 8u7 2 1 8u9 2 1 8ub 2 ",
      "1 8ud 2 1 8uf 2 1 8uh 2 1 8uj 2 1 8ul 2 1 8un 2 1 8up 2 1 8ur 2 1 8ut 2 1 8uv 2 1 8ux 2 1 ",
      "8uz 2 1 8v1 2 1 8v3 2 1 8v5 2 1 8v7 9 1 8vg 2 1 8vi 5 1 8vn nym 1 wu9 2 1 wub 2 1 wud 2 1 ",
      "wuf 2 1 wuh 2 1 wuj 2 1 wul 2 1 wun 2 1 wup 2 1 wur 2 1 wut 2 1 wuv 2 1 wux 2 1 wuz 2 1 wv",
      "1 2 1 wv3 2 1 wv5 2 1 wv7 2 1 wv9 2 1 wvb 2 1 wvd 2 1 wvf 2 1 wvh k 1 ww1 2 1 ww3 2 1 ww5 ",
      "2 1 ww7 2 1 ww9 2 1 wwb 2 1 wwd 2 1 wwf 2 1 wwh 2 1 wwj 2 1 wwl 2 1 wwn 2 1 wwp 2 1 wwr 3s ",
      "1 x0j 2 1 x0l 2 1 x0n 2 1 x0p 2 1 x0r 2 1 x0t 2 1 x0v 4 1 x0z 2 1 x11 2 1 x13 2 1 x15 2 1 ",
      "x17 2 1 x19 2 1 x1b 2 1 x1d 2 1 x1f 2 1 x1h 2 1 x1j 2 1 x1l 2 1 x1n 2 1 x1p 2 1 x1r 2 1 x1",
      "t 2 1 x1v 2 1 x1x 2 1 x1z 2 1 x21 2 1 x23 2 1 x25 2 1 x27 2 1 x29 2 1 x2b 2 1 x2d 2 1 x2f ",
      "2 1 x2h 2 1 x2j 2 1 x2l 2 1 x2n b 1 x2y 2 1 x30 2 1 5tl 1 1 x33 2 1 x35 2 1 x37 2 1 x39 2 ",
      "1 x3b 5 1 x3g 2 1 h1 3 1 x3l 2 1 x3n 4 1 x3r 2 1 x3t 2 1 x3v 2 1 x3x 2 1 x3z 2 1 x41 2 1 x",
      "43 2 1 x45 2 1 x47 2 1 x49 2 1 h2 1 1 gs 1 1 gx 1 1 h8 1 1 h6 2 1 im 1 1 hz 1 1 il 1 1 xub ",
      "1 1 x4l 2 1 x4n 2 1 x4p 2 1 x4r 2 1 x4t 2 1 x4v 2 1 x4x 2 1 x4z 2 1 x3o 1 1 hu 1 1 5u6 1 1 ",
      "x54 2 1 x56 7 1 x5d 6 1 x5j 2 1 x5l t 1 x6e or 28 3vk gj5 q 1ef5 yn 14 1fe0 4w 10 1fiw 5c ",
      "b 1fo7 c f 1foj g 7 1foz 8 2 1fp7 1d8 1f 1h34 2e8 w 1jgg gww w 20dc o8w y 2oma "])

/-- The numbers of a text in base 36, each ended by a blank. -/
def numbersOf (text : String) : List Nat :=
  ((text.splitOn " ").filter (· != "")).map fun word =>
    word.foldl (fun n c => n * 36 + (digit36? c).getD 0) 0

/-- The foldings of runs, where the last run started at `last`. -/
def foldingsFrom : Nat → List Nat → List (Nat × Nat)
  | last, gap :: size :: target :: rest =>
      let start := last + gap
      (List.range size).map (fun i => (start + i, target + i)) ++ foldingsFrom start rest
  | _, _ => []

def foldings : Array (Nat × Nat) := (foldingsFrom 0 (numbersOf foldingRuns)).toArray

/-- The code point that a code point folds to. -/
def foldPoint (n : Nat) : Nat := ((foldings.find? (·.1 == n)).map (·.2)).getD n

/-- All characters, the given one included, that fold to the same character. -/
def caseVariants (c : Char) : List Char :=
  let target := foldPoint c.toNat
  let others := (foldings.toList.filter (·.2 == target)).map fun (n, _) => Char.ofNat n
  Char.ofNat target :: others

/-- The same in ASCII alone. -/
def asciiCaseVariants (c : Char) : List Char :=
  if c.isUpper then [c, c.toLower] else if c.isLower then [c, c.toUpper] else [c]

end BinaryCoverage.Unicode
