/-!
# Properties of characters

Runs of characters with a property. Each word names how far the run starts behind the start of the
run before, its length, both in hexadecimal, and the value of the property if it has several.
-/

namespace ClarityCheck.Url.Domain

/-- The combining classes other than zero, in hexadecimal. -/
def combiningClassData : List String :=
  ["300+15,e6 15+1,e8 1+4,dc 4+1,e8 1+1,d8 1+5,dc 5+2,ca 2+4,dc 4+2,ca 2+b,dc b+5,1 5+4,dc",
    "4+8,e6 8+1,f0 1+1,e6 1+3,dc 3+3,e6 3+2,dc 3+3,e6 3+4,dc 4+1,e6 1+1,e8 1+2,dc 2+1,e6 1+1,e9",
    "1+2,ea 2+1,e9 1+2,ea 2+1,e9 1+d,e6 120+5,e6 10e+1,dc 1+4,e6 4+1,dc 1+3,e6 3+1,de 1+1,dc",
    "1+6,e6 6+6,dc 6+2,e6 2+1,dc 1+2,e6 2+1,de 1+1,e4 1+1,e6 1+1,a 1+1,b 1+1,c 1+1,d 1+1,e 1+1,f",
    "1+1,10 1+1,11 1+1,12 1+2,13 2+1,14 1+1,15 1+1,16 2+1,17 2+1,18 1+1,19 2+1,e6 1+1,dc 2+1,12",
    "49+8,e6 8+1,1e 1+1,1f 1+1,20 31+1,1b 1+1,1c 1+1,1d 1+1,1e 1+1,1f 1+1,20 1+1,21 1+1,22 1+2,e6",
    "2+2,dc 2+5,e6 5+1,dc 1+2,e6 2+1,dc 11+1,23 66+7,e6 9+4,e6 4+1,dc 1+1,e6 3+2,e6 3+1,dc 1+2,e6",
    "2+1,dc 24+1,24 1f+1,e6 1+1,dc 1+2,e6 2+1,dc 1+2,e6 2+3,dc 3+1,e6 1+2,dc 2+1,e6 1+1,dc 1+3,e6",
    "3+1,dc 1+1,e6 1+1,dc 1+1,e6 1+1,dc 1+1,e6 1+1,dc 1+2,e6 a2+7,e6 7+1,dc 1+1,e6 a+1,dc 19+4,e6",
    "5+9,e6 a+3,e6 4+5,e6 30+3,dc 3e+2,e6 2+3,dc 3+4,e6 2e+5,e6 5+5,dc 5+e,e6 f+1,dc 1+2,e6",
    "2+1,dc 1+2,e6 2+1,dc 1+3,e6 3+3,dc 3+1,1b 1+1,1c 1+1,1d 1+3,e6 3+1,dc 1+2,e6 2+2,dc 2+5,e6",
    "41+1,7 11+1,9 4+1,e6 1+1,dc 1+2,e6 69+1,7 11+1,9 31+1,e6 3e+1,7 11+1,9 6f+1,7 11+1,9 6f+1,7",
    "11+1,9 80+1,9 6f+1,7 11+1,9 8+1,54 1+1,5b 66+1,7 11+1,9 6e+2,9 12+1,9 7d+1,9 6e+2,67 2+1,9",
    "e+4,6b 70+2,76 2+1,9 e+4,7a 50+2,dc 1d+1,dc 2+1,dc 2+1,d8 38+1,81 1+1,82 2+1,84 6+4,82",
    "6+1,82 2+2,e6 2+1,9 2+2,e6 40+1,dc 71+1,7 2+2,9 54+1,dc 2d0+3,e6 3b7+2,9 20+1,9 9e+1,9",
    "b+1,e6 cc+1,e4 90+1,de 1+1,e6 1+1,dc dc+1,e6 1+1,dc 48+1,9 15+8,e6 a+1,dc 31+5,e6 5+6,dc",
    "6+2,e6 2+1,dc 2+2,dc 2+2,e6 2+2,dc 2+5,e6 5+1,dc 1+12,e6 12+1,dc 3+6,e6 6+1,dc 1+4,e6 4+1,ea",
    "49+1,7 10+1,9 27+1,e6 1+1,dc 1+7,e6 3d+2,9 3c+1,7 c+2,9 45+1,7 99+3,e6 4+1,1 1+5,dc 5+2,e6",
    "2+4,dc 4+1,e6 2+7,1 b+1,dc 7+1,e6 4+2,e6 c8+2,e6 2+1,dc 1+7,e6 7+1,dc 1+2,e6 2+1,ea 1+1,d6",
    "1+1,dc 1+1,ca 1+25,e6 25+1,e8 1+2,e4 2+1,dc 1+1,da 1+1,e6 1+1,e9 1+1,dc 1+1,e6 1+1,dc",
    "2d1+2,e6 2+2,1 2+4,e6 4+3,1 3+2,e6 6+1,e6 4+2,1 2+1,e6 1+1,dc 1+1,e6 1+2,1 2+4,dc 4+1,e6",
    "bff+3,e6 90+1,9 61+20,e6 24a+1,da 1+1,e4 1+1,e8 1+1,de 1+2,e0 6b+2,8 75d6+1,e6 5+a,e6",
    "2a+2,e6 52+2,e6 116+1,9 26+1,9 98+1,9 1c+12,e6 4b+3,dc 28+1,9 60+1,7 d+1,9 f0+1,e6 2+2,e6",
    "2+1,dc 3+2,e6 7+2,e6 3+1,e6 35+1,9 f7+1,9 4f31+1,1a 302+7,e6 7+7,dc 7+2,e6 3cf+1,dc e3+1,dc",
    "96+5,e6 697+1,dc 2+1,e6 29+1,e6 1+1,1 1+1,dc 5+1,9 a6+1,e6 1+1,dc 23e+4,e6 45+5,e6 142+2,e6",
    "4f+2,dc 3+3,dc 49+2,dc 2+3,e6 3+1,dc 1+1,e6 1+4,dc 35+1,e6 1+1,dc 1+1,e6 1+1,dc c1+1,9",
    "2a+1,9 f+1,9 3a+1,9 1+1,7 46+3,e6 33+2,9 40+1,7 4d+1,9 a+1,7 6b+1,9 1+1,7 b3+1,7 1+1,9",
    "51+2,7 12+1,9 19+7,e6 a+5,e6 5e+3,9 74+1,9 4+1,7 18+1,e6 64+1,9 1+1,7 fc+1,9 1+1,7 7f+1,9",
    "77+1,9 1+1,7 74+1,9 10e+1,9 1+1,7 103+2,9 6+1,7 9d+1,9 54+1,9 13+1,9 52+1,9 1a6+1,9 103+1,7",
    "2+2,9 53+1,9 1aa+2,9 41ee+1,9 9c1+5,1 40+7,e6 4c0+2,6 4cae+1,1 14c7+2,d8 2+3,1 6+1,e2 1+5,d8",
    "d+8,dc a+5,e6 5+2,dc 20+4,e6 98+3,e6 dbe+7,e6 8+11,e6 13+7,e6 8+2,e6 3+5,e6 69+1,e6 a1+7,e6",
    "17e+1,e6 3e+4,e6 200+2,e8 2+1,dc 1+1,e6 ff+1,e6 1+1,dc f4+1,e6 3+1,e6 8+2,e6 7+1,e6 1db+7,dc",
    "74+6,e6 6+1,7"]

/-- The marks, which combine with the character before. -/
def markData : List String :=
  ["300+70 183+7 10e+2d 2e+1 2+2 3+2 3+1 49+b 3b+15 25+1 66+7 9+6 8+2 3+4 27+1 1f+1b 76+b 45+9",
    "12+1 19+4 5+9 a+3 4+5 30+3 3e+9 33+18 19+21 57+3 4+12 13+7 11+2 1f+3 3b+1 2+7 9+2 4+3 c+1",
    "b+2 1c+1 3+3 3b+1 2+5 9+2 4+3 6+1 1f+2 5+1 c+3 3b+1 2+8 9+3 4+3 17+2 18+6 7+3 3b+1 2+7 9+2",
    "4+3 a+3 d+2 20+1 3c+5 8+3 4+4 d+1 29+5 3c+1 2+7 8+3 4+4 b+2 d+2 1f+3 3b+1 2+7 8+3 4+4 b+2",
    "d+2 11+1 d+4 3b+2 3+7 8+3 4+4 d+1 b+2 1f+3 49+1 5+6 7+1 2+8 1a+2 3f+1 3+7 13+8 6a+1 3+9 14+7",
    "50+2 1d+1 2+1 2+1 5+2 33+14 15+2 7+b c+24 2d+1 65+14 2b+4 8+3 4+3 5+7 a+4 11+c d+1 b+4 2c3+3",
    "3b5+4 20+3 20+2 20+2 42+20 29+1 2e+3 4+1 76+2 24+1 77+c 10+c e7+5 3e+a b+1d 1f+1 31+2e 30+c",
    "20+5 34+11 37+9 15+3 21+d 45+e 3e+14 ac+3 4+15 19+1 7+1 3+3 c9+40 310+21 c1f+3 90+1 61+20",
    "24a+6 6f+2 75d6+4 5+a 2a+2 52+2 112+1 4+1 5+1 18+5 9+1 54+2 34+12 2c+12 1f+1 27+8 21+d 39+4",
    "33+e 32+1 44+e 1a+1 9+2 2f+3 35+1 2+3 5+2 7+2 3+1 2a+5 a+2 ee+8 9+2 4f32+1 2e2+10 20+10",
    "3dd+1 e3+1 96+5 68b+3 4+2 7+4 2c+3 7+1 a6+2 23f+4 45+5 142+2 4f+6 4c+b 3c+4 7e+3 38+f 38+1",
    "3+2 c+4 31+b 12+1 3e+3 27+e 1e+2 2e+1 d+3 33+e 16+4 5+2 5e+c 12+1 3+1 9e+c 21+4 3b+2 3+7 9+2",
    "4+3 c+1 b+2 4+7 a+5 48+9 a+1 3+1 2+4 5+5 6+1 f+2 54+12 29+1 52+14 ff+7 9+9 24+2 54+11 7b+d",
    "72+f 10f+f 104+6 7+2 4+4 5+1 2+2 8f+7 9+7 a+1 1d+a 32+7 8+4 c+1 a+b 39+10 d6+8 cf+8 9+8",
    "5a+16 17+e 88+6 9+1 2+2 3+7 8+1 43+5 6+2 3+5 160+4 d+2 3+1 31+7 a+5 1c+1 14e6+1 7+f 2cd7+12",
    "9d2+5 40+7 41f+1 2+37 3e+4 55+1 c+2 4cad+2 1263+2e 30+17 235+5 8+6 e+8 a+7 25+4 98+3 7be+37",
    "3b+32 3a+1 f+1 17+5 6+f 55f+7 8+11 13+7 8+2 3+5 69+1 a1+7 17e+1 3e+4 200+4 102+2 f5+1 3+1",
    "8+2 7+1 1db+7 74+7 c17bc+f0"]

/-- The classes of writing direction other than left to right: `r` and `a` for right to left, `n`
and `e` for the two kinds of digits, `s`, `c`, `t`, `o`, `b` and `m` for separators, terminators,
neutrals and marks, `x` for what no domain name holds. -/
def directionData : List String :=
  ["0+9,b 9+5,x 5+e,b e+5,x 5+2,o 2+3,t 3+5,o 5+1,s 1+1,c 1+1,s 1+2,c 2+a,e a+1,c 1+6,o 20+6,o",
    "20+4,o 4+1,b 22+1,o 1+4,t 4+2,o 3+1,o 2+2,o 3+1,o 2+2,t 6+2,o 5+1,o 4+1,o 18+1,o 20+1,o",
    "1c2+2,o 9+e,o 10+6,o c+2,o 7+9,o a+11,o 11+40,m 42+1,m 4+9,m a+20,m 25+1,o 81+1,o 8d+7,m",
    "107+1,o 3+2,o 2+1,t 2+2d,m 2d+1,r 1+1,m 1+1,r 1+2,m 2+1,r 1+2,m 2+1,r 1+1,m 9+1b,r 1f+6,r",
    "17+2,o 2+1,a 1+2,t 2+1,a 1+1,c 1+1,a 1+2,o 2+b,m b+1,a 2+2e,a 2e+15,m 15+a,n a+1,t 1+2,n",
    "2+3,a 3+1,m 1+4,a 8+5d,a 5d+7,m 8+1,o 1+6,m 6+2,a 2+2,m 2+1,o 1+4,m 4+2,a 2+a,e a+14,a",
    "16+1,a 1+1,m 1+1e,a 1e+1b,m 1d+59,a 59+b,m b+1,a f+2b,r 2b+9,m 9+2,r 2+4,o 4+1,r 3+1,m",
    "1+18,r 18+4,m 4+1,r 1+9,m 9+1,r 1+3,m 3+1,r 1+5,m 7+f,r 10+19,r 19+3,m 5+1,r 2+b,a 10+20,a",
    "27+9,m 9+2a,a 2a+18,m 19+20,m 57+1,m 2+1,m 5+8,m c+1,m 4+7,m 11+2,m 1f+1,m 3b+1,m 5+4,m",
    "c+1,m 15+2,m 10+2,t 9+1,t 3+1,m 3+2,m 3b+1,m 5+2,m 6+2,m 4+3,m 6+1,m 1f+2,m 5+1,m c+2,m",
    "3b+1,m 5+5,m 6+2,m 6+1,m 15+2,m f+1,t 9+6,m 7+1,m 3b+1,m 3+1,m 2+4,m c+1,m 8+2,m d+2,m",
    "20+1,m 3e+1,m d+1,m 26+6,o 6+1,t 1+1,o 6+1,m 4+1,m 38+1,m 2+3,m 8+3,m 4+4,m b+2,m d+2,m",
    "16+7,o 9+1,m 3b+1,m 10+2,m 16+2,m 1e+2,m 3b+2,m 6+4,m c+1,m 15+2,m 1f+1,m 49+1,m 8+3,m 4+1,m",
    "5b+1,m 3+7,m b+1,t 8+8,m 6a+1,m 3+9,m 14+7,m 50+2,m 1d+1,m 2+1,m 2+1,m 1+4,o 37+2,m 3+1,m",
    "6+5,m 6+1,m 2+3,m 4+2,m 7+6,m 7+4,m 5+4,m 5+4,m 5+4,m 5+4,m 5+c,m d+3,m c+1,m 67+4,m 5+6,m",
    "7+2,m 4+2,m 1b+2,m 6+3,m 13+4,m 11+1,m 3+2,m 8+1,m 10+1,m 2c0+3,m 33+a,o 70+1,o 29b+2,o",
    "77+3,m 20+2,m 20+2,m 20+2,m 45+7,m f+1,m 3+b,m 12+1,t 2+1,m 13+a,o 10+b,o 85+2,m 24+1,m",
    "77+3,m 7+2,m b+1,m 7+3,m 7+1,o 4+2,o 9a+22,o 39+2,m 4+1,m 3b+1,m 2+7,m 8+1,m 2+1,m 3+8,m",
    "e+a,m c+1,m 31+2e,m 30+c,m 20+4,m 34+1,m 2+5,m 6+1,m 6+1,m c+2,o 1d+9,m 14+1,o 1+2,m 22+4,m",
    "6+2,m 3+3,m 3b+1,m 2+2,m 5+1,m 2+3,m 3d+8,m a+2,m 9a+3,m 4+d,m e+7,m b+1,m 7+1,m 4+2,m",
    "c8+40,m 24c+2,b 4+1,o 2+5,o 6+c,o f+1,o 9+3,t 5+1,o 3+4,o 5+1,o 2+5,o 5+1,c 1+2,o 5+d,o",
    "e+7,o 48+8,t 9+18,t 18+1,o f+21,m 34+1,o 4+1,o c+1,o 3+2,o 7+2,o 5+1,o 2+1,o 2+1,o 2+1,o",
    "5+1,t c+1,o 7+4,o 9+4,o 40+2,o 6+82,o 82+1,s 1+1,t 1+18,o 1a+1,o 3+f8,o fa+b,o 50+1a,o",
    "1b+94,o aa+b,o ab+1c1,o 1c2+153,o 253+10c,o 10d+67,o 6a+65,o 66+97,o 99+8a,o 16f+6,o a+3,m",
    "a+7,o 86+1,m 61+20,m 20+5e,o 80+1a,o 1b+4,o 5+53,o 161+1,o 2+2,o 5+19,o 22+4,m 6+1,o 7+1,o",
    "6+3,o 5c+2,m 7+1,o 5b+1,o c5+26,o 1c00+40,o 56d0+37,o 17d+3,o 62+4,m 4+1,o 1+a,m a+2,o",
    "20+2,m 52+2,m 10+22,o 88+1,o 7a+1,m 4+1,m 5+1,m 1a+2,m 3+4,o 4+1,m c+2,t 3c+4,o 50+2,m",
    "1c+12,m 1f+1,m 27+8,m 21+b,m 39+3,m 33+1,m 3+4,m 6+2,m 29+1,m 44+6,m 8+2,m 4+2,m e+1,m 9+1,m",
    "30+1,m 34+1,m 2+3,m 5+2,m 7+2,m 3+1,m 2b+2,m a+1,m 74+2,o 7b+1,m 3+1,m 5+1,m 4f31+1,m",
    "94+11,a 11+10,o 17b+12,o 52+2,o 38+8,o 35+3,o 23+10,m 25+2,o 2e+1,a 28e+1,o 3f+4d,o 50+d,o",
    "10+1,o 5d+1,m e3+1,m 1+1b,e 95+5,m 48a+6,r 8+1,r 2+2c,r 2d+2,r 5+1,r 3+17,r 18+48,r 50+9,r",
    "39+13,r 14+2,r 7+21,r 24+1,o 1+1a,r 1f+1b,r 41+38,r 3c+14,r 16+2f,r 2f+3,m 4+2,m 7+4,m 4+4,r",
    "5+3,r 4+1d,r 1f+3,m 7+1,m 1+9,r 10+9,r 10+40,r 60+25,r 25+2,m 6+c,r 15+36,r 39+7,o 7+16,r",
    "18+1b,r 20+1a,r 21+4,r 10+7,r 57+49,r c0+33,r 3a+6,r 6+24,a 24+4,m c+a,n 10+10,r 29+5,m",
    "5+1,o 1+17,r 1f+2,o d2+1f,n 20+2a,r 2b+2,m 2+1,r 3+2,r 12+6,a e+9,o 2a+6,m 6+28,r 30+16,a",
    "16+b,m b+9,a 1f+12,r 12+4,m 4+4,r 2a+1c,r 30+17,r 21+1,m 37+f,m 1a+14,o 1e+1,m 3+2,m c+3,m",
    "34+4,m 6+2,m 9+1,m 3e+3,m 27+5,m 6+8,m 46+1,m d+2,m 36+9,m 13+4,m 6+1,m 60+3,m 5+1,m 2+2,m",
    "8+1,m 3+1,m 9e+1,m 4+8,m 1d+2,m 3b+2,m 5+1,m 26+7,m a+5,m 4b+6,m 13+1,m 2+1,m 2+1,m 2+2,o",
    "3+2,o a+2,m 57+8,m a+3,m 4+1,m 18+1,m 55+6,m 7+1,m 5+2,m 3+2,m f0+4,m a+2,m 3+2,m 1d+2,m",
    "57+8,m a+1,m 2+2,m 21+d,o 4b+1,m 2+1,m 3+6,m 7+1,m 66+3,m 5+4,m 5+5,m 108+9,m a+2,m 102+2,m",
    "3+1,m 5+1,m 91+4,m 6+2,m 6+1,m 21+6,m 8+2,m 2a+6,m 8+4,m c+1,m a+6,m 8+3,m 31+d,m e+2,m",
    "68+a,o 60+1,m 2+3,m 4+1,m 7b+1,o 4f+7,m 8+6,m 5a+16,m 18+7,m 8+2,m 3+2,m 7c+6,m 9+1,m 2+2,m",
    "3+7,m 8+1,m 49+2,m 5+1,m 2+1,m 15c+2,m d+2,m 36+5,m a+1,m 2+1,m 1+d,o 17+1,m 7b+8,o 8+4,t",
    "4+11,o 145f+1,m 7+f,m 2cd7+c,m f+3,m 9c3+5,m 40+7,m 23d+3,o 1e2+1,m 40+4,m 53+1,o 2+1,m",
    "4cb9+2,m f63+d6,o fa+3,o 6+1b4,o 1ba+17,o 26+11,o 20+2e,m 30+17,m 237+3,m 14+8,m a+7,m",
    "25+4,m 3f+2,o 17+42,o 42+3,m 3+1,o bb+57,o 700+37,m 3b+32,m 3a+1,m f+1,m 17+5,m 6+f,m",
    "55f+7,m 8+11,m 13+7,m 8+2,m 3+5,m 69+1,m a1+7,m 17e+1,m 3e+4,m 13+1,t 1ed+4,m 102+2,m 11+1,o",
    "e4+1,m 3+1,m 8+2,m 7+1,m 10b+c5,r c7+9,r 9+7,m 52+22,r 22+7,m 7+1,r 5+a,r e+2,r 313+44,a",
    "90+3d,a 1ef+2,o 110+2c,o 30+64,o 70+f,o 11+f,o 10+f,o 10+25,o 3a+5,o 24+1,o 3e+3,o 40+1,o",
    "b3+6,o a0+3d9,o 3dc+11,o 14+d,o 10+da,o e0+c,o 10+1,o 10+c,o 10+38,o 40+a,o 10+28,o 30+1e,o",
    "20+c,o 10+2,o 10+9,o 30+158,o 160+e,o 10+d,o 10+b,o e+39,o 3a+1,o 5+10,o 12+c,o 10+a,o",
    "11+93,o 94+5c,o 66+1,o"]

/-- The ways in which letters join: `d` on both sides, `l` on the left, `r` on the right, `t` for
what joins through. -/
def joiningData : List String :=
  ["300+40,t 42+1,t 4+9,t a+20,t 133+7,t 10e+2d,t 2e+1,t 2+2,t 3+2,t 3+1,t 49+b,t 10+1,d 2+4,r",
    "4+1,d 1+1,r 1+1,d 1+1,r 1+5,d 5+4,r 4+d,d e+7,d 7+1,r 1+2,d 2+15,t 23+2,d 2+1,t 1+3,r 4+3,r",
    "3+10,d 10+12,r 12+26,d 26+1,r 1+2,d 2+9,r 9+1,d 1+1,r 1+1,d 1+1,r 1+2,d 2+2,r 3+1,r 1+7,t",
    "9+6,t 8+2,t 3+4,t 4+2,r c+3,d 5+1,d 11+1,r 1+1,t 1+3,d 3+5,r 5+4,d 4+1,r 1+9,d 9+1,r 1+1,d",
    "1+1,r 1+1,d 1+1,r 1+2,d 2+1,r 1+1b,t 1d+1,r 1+b,d b+3,r 3+f,d f+2,r 2+4,d 4+1,r 1+1,d 1+2,r",
    "2+3,d 3+2,r 2+6,d 2c+b,t 24+21,d 21+9,t 12+1,t 19+4,t 5+9,t a+3,t 4+5,t 17+1,r 1+5,d 5+2,r",
    "2+1,d 1+1,r 1+a,d a+1,r 1+1,d 1+3,r 3+3,t 7+1,d 2+4,d 5+1,r 1+1,d 1+2,r 7+13,r 16+1,d 3+5,d",
    "5+1,r 1+1,d 8+9,t 9+a,d a+3,r 4+1,r 1+2,d 2+2,r 2+6,d 6+1,r 1+f,d 10+18,t 19+20,t 57+1,t",
    "2+1,t 5+8,t c+1,t 4+7,t 11+2,t 1f+1,t 3b+1,t 5+4,t c+1,t 15+2,t 1c+1,t 3+2,t 3b+1,t 5+2,t",
    "6+2,t 4+3,t 6+1,t 1f+2,t 5+1,t c+2,t 3b+1,t 5+5,t 6+2,t 6+1,t 15+2,t 18+6,t 7+1,t 3b+1,t",
    "3+1,t 2+4,t c+1,t 8+2,t d+2,t 20+1,t 3e+1,t d+1,t 33+1,t 4+1,t 38+1,t 2+3,t 8+3,t 4+4,t",
    "b+2,t d+2,t 1f+1,t 3b+1,t 3+1,t 7+1,t 6+2,t 16+2,t 1e+2,t 3b+2,t 6+4,t c+1,t 15+2,t 1f+1,t",
    "49+1,t 8+3,t 4+1,t 5b+1,t 3+7,t 13+8,t 6a+1,t 3+9,t 14+7,t 50+2,t 1d+1,t 2+1,t 2+1,t 38+2,t",
    "3+1,t 6+5,t 6+1,t 2+3,t 4+2,t 7+6,t 7+4,t 5+4,t 5+4,t 5+4,t 5+4,t 5+c,t d+3,t c+1,t 67+4,t",
    "5+6,t 7+2,t 4+2,t 1b+2,t 6+3,t 13+4,t 11+1,t 3+2,t 8+1,t 10+1,t 2c0+3,t 3b5+3,t 20+2,t",
    "20+2,t 20+2,t 45+7,t f+1,t 3+b,t 14+1,t 2a+1,d 19+59,d 65+2,t 2+22,d 22+1,t 1+1,d 76+3,t",
    "7+2,t b+1,t 7+3,t de+2,t 4+1,t 3b+1,t 2+7,t 8+1,t 2+1,t 3+8,t e+a,t c+1,t 31+2e,t 30+c,t",
    "20+4,t 34+1,t 2+5,t 6+1,t 6+1,t 29+9,t 15+2,t 22+4,t 6+2,t 3+3,t 3b+1,t 2+2,t 5+1,t 2+3,t",
    "3d+8,t a+2,t 9a+3,t 4+d,t e+7,t b+1,t 7+1,t 4+2,t c8+40,t 310+21,t c1f+3,t 90+1,t 61+20,t",
    "24a+4,t 6f+2,t 75d6+4,t 5+a,t 2a+2,t 52+2,t 112+1,t 4+1,t 5+1,t 1a+2,t 7+1,t 14+32,d 32+1,l",
    "52+2,t 1c+12,t 1f+1,t 27+8,t 21+b,t 39+3,t 33+1,t 3+4,t 6+2,t 29+1,t 44+6,t 8+2,t 4+2,t",
    "e+1,t 9+1,t 30+1,t 34+1,t 2+3,t 5+2,t 7+2,t 3+1,t 2b+2,t a+1,t ef+1,t 3+1,t 5+1,t 4f31+1,t",
    "302+10,t 3dd+1,t e3+1,t 96+5,t 68b+3,t 4+2,t 7+4,t 2c+3,t 7+1,t 81+5,d 5+1,r 2+1,r 2+2,r",
    "4+1,l 1+5,r 5+4,d 4+1,l 1+5,d 5+1,r 1+3,d 3+1,r 3+1,r 1+2,t 6+4,d 4+1,r 91+1,d 1+1,r 1+1,d",
    "1+3,r 3+3,d 3+1,r 1+2,d 2+1,r 1+1,d 1+2,r 2+1,d 1+1,r 18+4,r 4+2,d 153+1,l 1+21,d 21+1,r",
    "1+1,d 1+4,t 45+5,t 142+2,t 17+1,r 1+2,d 3+2,d 34+6,t 36+3,d 3+1,r 1+11,d 12+b,t b+3,d 3+1,r",
    "1c+4,d 4+2,r 2+c,d c+4,t 2e+1,d 2+2,d 2+3,r 4+1,d 1+2,r 2+2,d 2+1,r 1+2,d 3+1,d 1+2,r 2+1,d",
    "5+1,r 1+1,d 1+1,l 36+1,t 37+f,t 38+1,t 3+2,t c+3,t 34+4,t 6+2,t 9+1,t 3e+3,t 27+5,t 6+8,t",
    "46+1,t d+2,t 36+9,t 13+4,t 6+1,t 60+3,t 5+1,t 2+2,t 8+1,t 3+1,t 9e+1,t 4+8,t 1d+2,t 3b+2,t",
    "5+1,t 26+7,t a+5,t 4b+6,t 13+1,t 2+1,t 2+1,t f+2,t 57+8,t a+3,t 4+1,t 18+1,t 55+6,t 7+1,t",
    "5+2,t 3+2,t f0+4,t a+2,t 3+2,t 1d+2,t 57+8,t a+1,t 2+2,t 6c+1,t 2+1,t 3+6,t 7+1,t 66+1,t",
    "2+1,t 3+4,t 5+5,t 108+9,t a+2,t 102+2,t 3+1,t 5+1,t 91+4,t 6+2,t 6+1,t 21+a,t 32+6,t 8+4,t",
    "c+1,t a+6,t 8+3,t 31+d,t e+2,t c8+1,t 2+3,t 4+1,t ca+7,t 8+6,t 7+1,t 53+16,t 18+7,t 8+2,t",
    "3+2,t 7c+6,t 9+1,t 2+2,t 3+7,t 8+1,t 49+2,t 5+1,t 2+1,t 15c+2,t d+2,t 36+5,t a+1,t 2+1,t",
    "18+1,t 14e6+1,t 7+f,t 2cd7+c,t f+3,t 9c3+5,t 40+7,t 41f+1,t 40+4,t 55+1,t 4cb9+2,t 1263+2e,t",
    "30+17,t 237+3,t 14+8,t a+7,t 25+4,t 98+3,t 7be+37,t 3b+32,t 3a+1,t f+1,t 17+5,t 6+f,t",
    "55f+7,t 8+11,t 13+7,t 8+2,t 3+5,t 69+1,t a1+7,t 17e+1,t 3e+4,t 200+4,t 102+2,t f5+1,t 3+1,t",
    "8+2,t 7+1,t 1db+7,t 30+44,d 44+7,t"]

end ClarityCheck.Url.Domain
