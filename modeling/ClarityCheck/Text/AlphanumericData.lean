/-!
# Letters and digits

Runs of characters with the Unicode property `Alphabetic` or a general category of numbers. Each
word names how far the run starts behind the start of the run before, and its length, both in
hexadecimal.
-/

namespace ClarityCheck.Text

/-- The runs beyond ASCII, in hexadecimal. -/
def alphanumericData : List String :=
  ["aa+1 8+2 3+1 4+2 3+3 4+17 18+1f 20+1ca 1ce+c 1a+5 c+1 2+1 57+1 1e+12 13+2 4+4 5+1 7+1 2+3",
    "4+1 2+14 15+53 54+8b 93+a6 a7+26 28+1 7+29 50+e f+1 2+2 3+2 3+1 9+1b 1f+4 21+b 10+38 39+11",
    "15+66 67+8 c+8 c+10 12+1 11+30 3d+65 73+2b 34+2 6+1 6+18 1a+13 26+19 20+b 10+18 19+7 e+1",
    "9+2a 34+c f+7 d+4c 4d+10 11+3 7+f 11+a b+13 14+8 a+2 4+16 17+7 8+1 4+4 7+8 a+2 4+2 3+1 9+1",
    "5+2 3+5 7+c e+6 8+1 5+3 4+6 a+2 4+16 17+7 8+2 3+2 3+2 6+5 9+2 4+2 6+1 8+4 5+1 8+10 1b+3",
    "4+9 a+3 4+16 17+7 8+2 3+5 8+9 a+3 4+2 5+1 10+4 6+a 13+4 8+3 4+8 a+2 4+16 17+7 8+2 3+5 8+8",
    "a+2 4+2 b+2 6+2 3+5 7+a b+7 11+2 3+6 9+3 4+4 7+2 3+1 2+2 5+2 5+3 6+c 10+5 8+3 4+3 6+1 7+1",
    "f+d 1a+d e+3 4+17 18+10 13+8 9+3 4+3 b+2 3+3 4+2 4+4 6+a 12+7 8+4 5+8 9+3 4+17 18+a b+5",
    "8+8 9+3 4+3 b+2 7+3 4+4 6+a b+3 f+d e+3 4+29 2b+8 9+3 4+3 4+1 6+10 12+13 14+6 7+3 4+12",
    "15+18 19+9 a+1 3+7 f+6 7+1 2+8 e+a c+2 f+3a 3f+7 d+1 3+a 31+2 3+1 2+5 6+18 19+1 2+13 14+3",
    "5+5 6+1 7+1 3+a c+4 24+1 20+14 20+8 9+24 28+13 17+10 11+24 67+37 38+1 3+f 15+4e 50+26 27+1",
    "6+1 3+2b 2c+14d 14e+4 6+7 8+1 2+4 6+29 2a+4 6+21 22+4 6+7 8+1 2+4 6+f 10+39 3a+4 6+43",
    "51+14 17+10 20+56 58+6 9+26c 26e+11 12+1a 1f+4b 4e+b 12+14 1f+15 21+14 20+d e+3 4+2 e+34",
    "36+13 21+1 5+1 4+a 10+a 20+a 10+59 60+2b 30+46 50+1f 20+c 10+9 16+28 2a+5 10+2c 30+1a 20+b",
    "30+1c 20+3f 41+14 1f+a 10+a 17+1 18+2 d+3 34+34 35+f 10+8 b+a 30+2a 2c+3a 3b+b 19+37 40+a",
    "d+31 33+b 10+2b 2d+3 2c+4 5+6 7+2 5+1 6+c0 d3+22 2d+116 118+6 8+26 28+6 8+8 9+1 2+1 2+1",
    "2+1f 21+35 36+7 8+1 4+3 4+7 a+4 6+6 a+d 12+3 4+7 7a+2 4+6 b+b 11+d 72+1 5+1 3+a b+1 4+5",
    "b+1 2+1 2+1 2+4 5+b d+4 9+5 9+1 2+3a 310+3c 56+4a 2c0+1e 48a+e5 eb+4 7+2 b+1 3+26 27+1 6+1",
    "3+38 3f+1 11+17 20+7 8+7 8+7 8+7 8+7 8+7 8+7 8+7 8+20 4f+1 1d6+3 1c+9 10+5 7+5 9+56 5c+3",
    "4+5a 5b+4 9+2b 2c+5e 61+4 e+20 50+10 30+a 28+8 9+f 2f+a 31+f 14f+19c0 1a00+568d 56d0+2e",
    "30+10d 110+1c 30+2f 34+8 b+71 98+9 b+67 69+52 66+15 16+21 29+6 10+34 40+44 45+1 b+a 22+6",
    "9+1 2+2e 33+23 30+1d 20+33 34+c 1b+b 11+1f 20+37 40+e 10+a 10+17 1a+45 46+1 2+1 19+3 5+10",
    "12+4 f+6 8+6 8+6 f+7 8+7 8+2b 2c+e 14+7b 80+a 10+2ba4 2bb0+17 1b+31 2135+16e 170+6a 90+7",
    "13+5 a+c d+d e+5 6+1 2+2 3+2 3+6c 8d+16b 17d+40 42+36 5e+c 80+5 6+87 9a+a 11+1a 20+1a",
    "25+59 5c+6 8+6 8+6 8+3 26+c d+1a 1b+13 14+2 3+f 11+e 30+7b 87+2d 39+39 4a+2 f6+1d 20+31",
    "41+1b 1f+24 2d+1e 23+2b 30+1e 20+24 28+8 9+5 2f+9e a0+a 10+24 28+24 28+28 30+34 40+b c+f",
    "10+7 8+2 3+b c+f 10+7 8+2 5+34 40+137 140+16 20+8 20+6 7+2a 2b+9 4e+6 8+1 2+2c 2d+2 5+1",
    "3+17 19+1f 21+26 2e+9 39+13 14+2 7+21 25+1a 20+1a 40+38 3c+14 16+32 33+2 7+8 9+3 4+1d 27+9",
    "20+1f 20+20 40+8 9+1c 22+5 15+36 40+16 18+1b 20+1a 31+7 57+49 80+33 40+33 3a+2e 36+a 10+26",
    "29+1 6+17 f1+1f 20+2a 2b+2 5+2 12+6 38+3 6+28 30+16 21+4 1f+12 40+1c 30+17 20+46 52+1e",
    "1f+5 f+39 42+1 e+19 20+a 10+33 36+a e+4 c+23 26+1 a+40 41+4 d+d e+1 5+14 1f+12 13+22 24+1",
    "7+4 42+7 8+1 2+4 5+f 10+a 11+39 40+a 10+4 5+8 a+2 4+16 17+7 8+2 3+5 8+8 a+2 4+2 5+1 7+1",
    "6+7 23+a b+1 3+1 2+26 27+a b+1 3+1 2+4 5+2 5+1 2+1 2d+42 43+3 4+4 9+a f+3 21+42 44+2 3+1",
    "9+a b0+36 38+7 20+6 28+3f 40+1 4+1 c+a 30+36 38+1 8+a 10+14 30+1b 1d+e 13+c 10+7 c0+39",
    "a0+53 5f+8 a+1 3+8 9+2 3+1e 1f+2 4+2 4+4 11+a 50+8 a+2e 30+6 7+1 2+2 1d+33 35+a 1b+48 4d+1",
    "13+49 b0+8 60+21 30+a 10+9 a+2d 2e+7 8+1 10+1d 22+1e 20+16 17+e 57+7 8+2 3+2c 2f+1 2+2 3+3",
    "4+1 3+2 a+a 10+6 7+2 3+25 26+2 3+4 5+1 8+a 10+2c 30+a 100+17 20+11 12+29 2c+3 12+a 60+1",
    "10+15 40+39a 400+6f 80+c4 b10+61 70+430 441+6 1f+f9b fa0+247 1d00+2f 30+a 6d0+239 240+1f",
    "20+a 10+4f 50+a 10+1e 30+30 40+4 10+a b+7 8+15 1a+13 1c3+2d 30+a d0+57 60+19 1b+19 45+4b",
    "4f+39 40+11 51+2 3+1 d+7 10+1cd6 1cff+20 81+73 2270+4 5+7 8+2 3+123 132+1 1e+3 5+1 f+4",
    "c+18c a90+6b 70+d 10+9 10+a e+1 1052+a 5d0+14 20+14 80+19 a0+55 56+47 48+2 4+1 3+2 4+4 5+c",
    "d+1 2+7 8+41 42+4 6+8 9+7 8+1c 1d+4 5+5 6+1 4+7 8+154 156+19 1a+19 1a+1f 20+19 1a+1f 20+19",
    "1a+1f 20+19 1a+1f 20+19 1a+8 a+32 732+1f 25+6 db+7 8+11 13+7 8+2 3+5 a+3e 5f+1 71+2d 37+7",
    "9+a e+1 142+1e 30+2c 30+a 1e0+1c 20+a e0+1e 20+b d0+1f 20+16 1e+2 e2+7 8+4 5+2 3+f 10+c5",
    "c7+9 39+44 47+1 4+1 5+a 321+3b 3c+3 4+4 50+2d 2e+f d1+4 5+1b 1c+2 3+1 3+1 2+a b+4 5+1 2+1",
    "7+1 5+1 2+1 2+1 2+3 4+2 3+1 3+1 2+1 2+1 2+1 2+1 2+2 3+1 3+4 5+7 8+4 5+4 5+1 2+a b+11 16+3",
    "4+5 6+11 255+d 30+1a 20+1a 20+1a a80+a 410+a6e0 a700+111e 1120+168e 1690+1d31 1d40+26e",
    "c10+21e 800+134b 1350+212a"]

end ClarityCheck.Text
