/-!
# Characters that are written as escapes

Runs of characters that have no shape of their own: controls, formats, separators, combining marks,
characters that are shown as nothing by default, and code points without a character. Each word
names how far the run starts behind the start of the run before, and its length, both in
hexadecimal.
-/

namespace ClarityCheck.Text

/-- The runs beyond ASCII, in hexadecimal. -/
def shapelessData : List String :=
  ["80+21 2d+1 253+70 78+2 8+4 b+1 2+1 15+1 e1+7 ad+1 27+2 34+2 5+2e 2f+1 2+2 3+2 3+9 24+4",
    "a+11 1b+b c+1 2f+15 25+1 66+8 9+6 8+2 3+4 24+2 3+1 1f+1d 76+b c+e 39+9 10+3 1b+4 5+9 a+3",
    "4+7 16+1 1a+5 6+1 c+5 25+10 3a+39 70+1 2+1 5+8 c+1 4+7 11+2 1f+1 3+1 9+2 4+2 18+1 8+1 2+3",
    "7+3 4+1 3+6 8+2 4+1 2+d f+1 4+4 1c+5 6+1 7+4 6+2 18+1 8+1 3+1 3+1 3+4 7+18 1c+1 2+7 11+2",
    "5+1 2+c d+1 a+1 4+1 17+1 8+1 3+1 6+3 7+8 9+1 3+3 4+f 11+4 10+7 8+8 a+1 9+2 4+2 18+1 8+1",
    "3+1 6+3 4+2 3+6 8+2 4+f 11+1 4+4 16+b c+1 7+3 6+1 5+3 5+1 2+1 3+3 5+3 6+3 f+5 6+1 3+3 6+1",
    "4+3 4+15 2a+6 9+1 9+1 4+1 18+1 11+3 4+3 7+13 16+1 3+2 4+4 e+7 11+1 c+1 4+1 18+1 b+1 6+3",
    "5+2 3+1 3+17 1a+1 3+4 e+1 4+e 19+1 4+1 2a+2 3+1 3+5 8+1 4+1 3+4 7+1 b+4 1e+2 4+1 13+3 1b+1",
    "a+1 2+2 9+9 b+6 d+7 11+2 5+c 3c+1 3+b 13+8 15+25 27+1 2+1 6+1 19+1 2+1 b+1 3+9 a+2 7+1 2+9",
    "13+2 6+20 38+2 1d+1 2+1 2+1 f+1 25+12 13+5 6+2 7+31 39+1 7+1 e+25 52+4 5+6 7+2 4+2 1b+2",
    "6+3 13+4 11+1 3+2 8+1 10+1 29+1 2+5 6+2 91+2 ea+1 5+2 9+1 2+1 5+2 2b+1 5+2 23+1 5+2 9+1",
    "2+1 5+2 11+1 3a+1 5+2 45+5 22+3 1d+6 5c+2 8+2 282+1 1d+3 5c+7 19+d 20+3 5+9 1b+e 1b+1 4+f",
    "43+2 3+7 f+1 3+b 14+3 d+6 10+6 11+5 f+6 5f+7 c+2 24+1 2+5 4b+a 29+4 8+2 5+4 6+1 7+7 8+3",
    "2d+2 7+b 37+4 1e+6 11+3 3c+2 4+3 3b+1 2+9 a+1 3+8 e+d 17+6 10+6 14+56 86+a e+3 b+1 1e+9",
    "15+2 22+4 6+6 3e+1 2+2 5+1 2+d 3d+8 a+5 14+3 41+5 30+2 d+b c+d e+7 b+1 7+1 4+2 3+5 c5+40",
    "156+2 8+2 28+2 8+2 a+1 2+1 2+1 2+1 20+2 37+1 10+1 f+2 8+1 14+2 5+1 a+11 29+8 37+11 13+2",
    "1d+1 e+3 25+3e ca+4 29e+16 21+15 729+2 17b+3 5+5 32+1 2+5 6+2 3a+7 9+f 26+9 10+1 8+1 8+1",
    "8+1 8+1 8+1 8+1 8+21 7f+22 3c+1 5a+c e2+1a 2a+1 2a+6 16+1 57+4 69+5 30+1 34+1 2b+1 57+9",
    "39+1 726e+3 3a+9 165+14 43+4 5+a 2a+2 52+2 8+8 e5+14 25+1 4+1 5+1 1a+2 7+4 e+6 3e+8 4c+a",
    "16+18 25+1 27+8 21+b c+c 2a+6 36+1 3+4 6+2 4+1 e+1 c+4 b+1 1a+1 2a+6 8+2 4+b e+1 9+1 2+2",
    "c+2 22+1 34+1 2+3 5+2 7+2 3+1 2+18 29+2 a+b 11+2 8+2 8+9 10+1 8+1 3d+4 79+1 3+1 5+3 d+6",
    "2baa+c 23+4 35+2104 2272+2 6c+26 2d+c 11+5 6+1 19+1 6+1 2+1 3+1 3+1 28b+20 30+10 1a+16",
    "39+1 14+1 5+4 9+1 88+4 a3+1 1f+3 9+2 8+2 8+2 5+3 a+1 8+d f+2 e+1 1b+1 14+1 3+1 10+2 10+22",
    "9d+5 8+4 31+3 5b+1 e+3 4+2f 5c+83 a0+3 34+10 2b+4 28+9 27+5 2b+a 28+1 26+4 12+2a c8+2 c+6",
    "2a+4 28+4 2c+8 3c+b 17+1 10+1 8+1 3+1 c+1 10+1 8+1 3+3 37+c 143+9 1f+a 12+18 1e+1 2b+1",
    "a+45 4b+2 3+1 2d+1 3+3 4+2 19+1 49+8 11+30 43+1 3+5 26+3 1e+5 20+26 5e+4 18+2 31+f 13+1",
    "4+1 1e+a 13+7 10+7 47+20 45+6 12+9 3f+3 20+2 1d+5 1f+7 b+c 13+50 99+37 6a+d 40+7 31+c 16+6",
    "2c+8 20+8 a+d0 ef+1 2b+3 4+2 4+10 16+8 11+27 4f+8 1e+b 14+16 28+4 8+26 42+14 2b+9 a+1 37+f",
    "16+4 22+1 3+2 3+c 3d+4 6+2 4+1 5+e 27+7 11+9 2d+5 6+9 1b+8 2b+1 4+b 3f+9 a+1 9+4 6+1 11+1",
    "15+b 1d+1 1d+3 5+4 a+1 3+3f 46+1 2+1 5+1 10+1 c+6 35+1 4+d 17+8 a+1 9+2 4+2 18+1 8+1 3+1",
    "6+3 4+1 2+1 5+2 4+2 4+3 4+c 13+1c 26+1 2+2 3+1 27+1 2+1 3+f 10+1 3+3 4+1 4+1 3+27 5f+8 a+3",
    "4+1 16+1 2+1 4+1e 4e+1 3+6 7+1 3+1 2+2 3+2 6+8 12+a6 d5+1 3+6 a+2 3+2 1d+24 57+8 a+1 2+2",
    "6+b 15+6 13+13 3e+1 2+1 3+8 a+6 10+6 1a+1c 37+3 4+1 3+4 5+9 20+b9 e8+9 a+2 3+64 b7+c 14+2",
    "3+2 a+1 3+1 19+1 6+1 3+6 a+1 4+9 13+46 4e+2 2c+8 c+1 5+1b 1c+a 32+6 8+4 c+9 a+6 8+3 31+d",
    "e+2 b+d 56+7 11+57 58+3 4+1 2+58 7a+e 18+6 f+1 27+e f+1 7+a 27+3 23+19 1a+7 8+2 3+4b 52+1",
    "3+1 27+15 16+9 13+6 c+1 3+1 26+4 6+1 2+1 2+7 11+6 32+4 e+f6 109+2 6+9 18+1 25+8 a+3 1a+56",
    "57+f 41+d 3a8+66 d5+1 6+b cf+a4c aaf+d 43d+11 17+19 fb4+5 24c+1ab9 1ad7+c f+3 d+6c6 8ff+7",
    "26+1 b+4 55+1 b+6 24+7 8+a 3a+7 16+a 14+1 8+1 16+5 18+1b0 1ea+c6 121+5 1e+2 1b+2c 77+5",
    "3d+b 18+40 44+e 13+9 1cdf+29 49+61 d4+21fd 2201+1 8+1 3+1 124+f 10+1d 20+2 3+e 12+8",
    "194+904 96f+5 12+3 c+7 11+2 3+2 3+f60 105d+3 1b7+6 1d+f 20+5f d3+3c 132+a 31+2 3e+5 8+16",
    "18+7 25+4 41+15 57+3 4+7a 8e+c 20+c 63+9 22+87 dc+1 48+1 3+2 3+2 4+2 6+1 d+1 2+1 8+1 42+1",
    "5+2 a+1 8+1 1d+1 5+1 6+1 2+3 a+1 155+2 126+2 234+37 3b+32 3a+1 f+1 8+474 493+6 c+105",
    "143+92 bf+a 11+2 c+4 6+140 15e+12 3e+4 e+5 6+1d0 1ec+4 e+d6 f4+2 d+4 5+c0 df+1 4+1 3+1 8+2",
    "7+9 b+e0 e7+1 5+1 3+1 10+1 c6+2 b+30 74+7 8+4 e+4 6+311 355+4c 89+c2 c6+1 1c+1 3+1 2+2 3+1",
    "b+1 5+1 2+1 2+6 7+4 5+1 2+1 2+1 4+1 3+1 2+2 3+1 2+1 2+1 2+1 2+1 3+1 2+2 6+1 8+1 5+1 5+1",
    "2+1 b+1 12+5 8+1 6+1 12+34 36+10e 13a+4 68+c 1b+2 11+1 10+1 26+a b8+38 55+d 39+4 d+7 9+e",
    "14+9a 473+3 14+3 10+3 dd+6 12+4 5+f 1b+4 3c+8 12+6 2e+8 26+2 e+4 6+e 17+27 17f+8 16+2 f+3",
    "e+3 3c+1 2+4 14+2 e+4 e+7 9a+1 68+405 aae5+20 113e+2 1690+2 1d33+f 27d+9a2 bc0+5e2 192d+5",
    "212f+dcb86"]

end ClarityCheck.Text
