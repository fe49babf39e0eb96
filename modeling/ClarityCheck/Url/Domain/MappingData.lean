/-!
# The mapping table of domain names

The characters beyond ASCII that a domain name may not hold as they are, in the order of their code
points. Each word is one run of characters: how far it starts behind the start of the run before, in
hexadecimal, and what happens to it.

* `!n`: the `n` characters are not allowed.
* `~n`: the `n` characters vanish.
* `+n,d`: each of the `n` characters becomes the one `d` code points on.
* `|n`: every other one of the `n` characters, the first included, becomes the one behind it.
* `=s,t,…`: the characters become the sequences `s`, `t`, …, whose code points are joined by dots.
-/

namespace ClarityCheck.Url.Domain

/-- The words of the table. -/
def mappingData : List String :=
  ["80!20 20=20 8=20.308 2=61 3~1 2=20.304 3+2,-80 2=20.301,3bc 4=20.327,31,6f",
    "4=31.2044.34,31.2044.32,33.2044.34 4+17,20 18+7,20 28|2f 30=69.307 2=69.6a,69.6a,135 4=137",
    "3|5 6=6c.b7,6c.b7,142 4|5 6=2bc.6e,14b 3|2b 2c=ff,17a 3|3 4=73 2=253,183 3=185 2=254,188",
    "3+2,cd 2=18c 3=1dd,259,25b,192 5=260,263 3=269,268,199 6=26f,272 3=275,1a1 3|3 4=280,1a8",
    "3=283 3=1ad 2=288,1b0 3+2,d9 2|3 4=292,1b9 5=1bd",
    "8=64.17e,64.17e,64.17e,6c.6a,6c.6a,6c.6a,6e.6a,6e.6a,6e.6a,1ce b|d f|11",
    "13=64.7a,64.7a,64.7a,1f5 5=195,1bf,1f9 4|25 26=19e 2|11 18=2c65,23c 3=19a,2c66 4=242",
    "2=180,289,28c,247 5|7 68=68,266,6a,72,279,27b,281,77,79",
    "28=20.306,20.307,20.30a,20.328,20.303,20.30b 8=263,6c,73,78,295 60+2,-40 3=313,308.301,3b9",
    "c~1 21|3 4=2b9 2=377 2!2 2=20.3b9 4=3b,3f3 2!4 4=20.301,20.308.301,3ac,b7 4+3,25 3!1 1=3cc",
    "1!1 1+2,3f 3+11,20 11!1 1+9,20 2c=3d7,3b2,3b8,3c5,3cd,3cb,3c6,3c0 9|17 18=3ba,3c1,3c3",
    "4=3b8,3b5 3=3f8 2=3c3,3fb 4+3,-82 3+10,50 10+20,20 50|21 2a|35 36=4cf,4c2 3|b d|5f 60!1",
    "1+26,30 26!2 30=565.582 4!2 5!1 38!8 23!4 a!11 27!1 59=627.674,648.674,6c7.674,64a.674 68!1",
    "31!2 3d!2 67!e 49!2 33!2 11!1 1d!2 3!1 c!5 25!7 52!1",
    "76=915.93c,916.93c,917.93c,91c.93c,921.93c,922.93c,92b.93c,92f.93c 2c!1 9!2 4!2 18!1 8!1 2!3",
    "7!2 b!2 4!2 6!8 9!4 4=9a1.9bc,9a2.9bc 2!1 1=9af.9bc 5!2 1b!2 5!1 7!4 6!2 18!1 8!1 2=a32.a3c",
    "1!1 2=a38.a3c 1!1 3!2 3!1 6!4 6!2 5!3 4!7 7=a16.a3c,a17.a3c,a1c.a3c 4!1 1=a2b.a3c 1!7 18!a",
    "d!1 a!1 4!1 17!1 8!1 3!1 6!2 c!1 4!1 4!2 3!f 13!2 e!7 e!1 4!1 9!2 4!2 18!1 8!1 3!1 6!2 b!2",
    "4!2 5!7 a!4 4=b21.b3c,b22.b3c 2!1 6!2 14!a c!1 7!3 6!1 5!3 5!1 2!1 3!3 5!3 6!3 f!4 9!3 6!1",
    "5!2 3!6 7!e 23!5 12!1 4!1 18!1 11!2 b!1 4!1 5!7 9!1 4!1 3!2 6!2 c!7 1d!1 4!1 18!1 b!1 6!2",
    "b!1 4!1 5!7 9!5 8!1 5!2 c!1 4!c 19!1 4!1 34!1 4!1 7!4 14!2 1c!1 4!1 13!3 1b!1 a!1 2!2 9!3",
    "4!4 a!1 2!1 9!6 10!2 5!c 3e=e4d.e32 8!4 21!25 27!1 2!1 6!1 19!1 2!1 d=ecd.eb2 b!2 7!1 2!1",
    "8!1 b!2 2=eab.e99,eab.ea1 4!20 2c=f0b 37=f42.fb7 5!1 5=f4c.fb7 5=f51.fb7 5=f56.fb7 5=f5b.fb7",
    "d=f40.fb5 4!4 6=f71.f72 2=f71.f74,fb2.f80,fb2.f71.f80,fb3.f80,fb3.f71.f80 c=f71.f80",
    "12=f92.fb7 5!1 5=f9c.fb7 5=fa1.fb7 5=fa6.fb7 5=fab.fb7 d=f90.fb5 4!1 10!1 e!25 c5+26,1c60",
    "26!1 1=2d27 1!5 5=2d2d 1!2 2e=10dc 63~2 ea!1 5!2 9!1 2!1 5!2 2b!1 5!2 23!1 5!2 9!1 2!1 5!2",
    "11!1 3a!1 5!2 45!2 22!3 1d!6 5c!2 2+6,-8 6!2 282!1 1d!3 5c!7 1d!9 21!9 1d!c 19!1 4!1 3!c",
    "40~2 2a!2 c!6 10!6 11~5 f!6 5f!7 32!5 4b!a 29!1 d!4 10!4 5!3 2d!2 7!b 37!4 1e!6 11!3 41!2",
    "43!1 1e!2 d!6 10!6 14!2 30!2 e!14 61!1 a7!8 44!3 12!3",
    "36=432,434,43e,441,442,442,44a,463,a64b,1c8a b!5 5+2b,-bc0 2b!2 2+3,-bc0 b!8 33!5",
    "31=61,e6,62 4+2,-1ccc 2=1dd 1+8,-1ccc",
    "9=6f,223,70,72,74,75,77,61,250,251,1d02,62,64,65,259,25b,25c,67",
    "13=6b,6d,14b,6f,254,1d16,1d17,70,74,75,1d1d,26f,76,1d25 e+3,-19ab 3+2,-199a",
    "2=69,72,75,76,3b2,3b3,3c1,3c6,3c7 16=43d 23=252,63,255,f0,25c,66,25f,261,265 9+3,-1b3c",
    "3=1d7b,29d,26d,1d85,29f,271,270 7+4,-1b3c 4=278,282,283,1ab,289,28a,1d1c,28b,28c,7a",
    "a+3,-1b2c 3=3b8 41|95 9a=61.2be,1e61 4=df 2|5f 68+8,-8 e!2 2+6,-8 6!2 a+8,-8 10+8,-8 e!2",
    "2+6,-8 6!2 a!1 1=1f51 1!1 1=1f53 1!1 1=1f55 1!1 1=1f57 9+8,-8 9=3ac 2=3ad 2=3ae 2=3af 2=3cc",
    "2=3cd 2=3ce 1!2 2=1f00.3b9,1f01.3b9,1f02.3b9,1f03.3b9,1f04.3b9,1f05.3b9,1f06.3b9",
    "7=1f07.3b9,1f00.3b9,1f01.3b9,1f02.3b9,1f03.3b9,1f04.3b9,1f05.3b9",
    "7=1f06.3b9,1f07.3b9,1f20.3b9,1f21.3b9,1f22.3b9,1f23.3b9,1f24.3b9",
    "7=1f25.3b9,1f26.3b9,1f27.3b9,1f20.3b9,1f21.3b9,1f22.3b9,1f23.3b9",
    "7=1f24.3b9,1f25.3b9,1f26.3b9,1f27.3b9,1f60.3b9,1f61.3b9,1f62.3b9",
    "7=1f63.3b9,1f64.3b9,1f65.3b9,1f66.3b9,1f67.3b9,1f60.3b9,1f61.3b9",
    "7=1f62.3b9,1f63.3b9,1f64.3b9,1f65.3b9,1f66.3b9,1f67.3b9 8=1f70.3b9,3b1.3b9,3ac.3b9 3!1",
    "2=1fb6.3b9,1fb0,1fb1,1f70,3ac,3b1.3b9,20.313,3b9,20.313,20.342",
    "a=20.308.342,1f74.3b9,3b7.3b9,3ae.3b9 4!1",
    "2=1fc6.3b9,1f72,3ad,1f74,3ae,3b7.3b9,20.313.300,20.313.301,20.313.342 c=390 1!2 4+2,-8",
    "2=1f76,3af 2!1 1=20.314.300,20.314.301,20.314.342 6=3b0 5+2,-8",
    "2=1f7a,3cd,1fe5,20.308.300,20.308.301,60 6!2 2=1f7c.3b9,3c9.3b9,3ce.3b9 3!1",
    "2=1ff6.3b9,1f78,3cc,1f7c,3ce,3c9.3b9,20.301,20.314 8!1 1=20,20,20,20,20,20,20,20,20,20,20",
    "b~1 3!2 3=2010 6=20.333 d!3 4!7 7=20 4=2032.2032,2032.2032.2032 3=2035.2035,2035.2035.2035",
    "6=21.21 2=20.305 9=3f.3f,3f.21,21.3f 10=2032.2032.2032.2032 8=20 1~5 5!5 5~6 6=30,69 2!2",
    "2+6,-2040 6=2b,2212,3d,28,29,6e 6+a,-2050 a=2b,2212,3d,28,29 5!1 1=61,65,6f,78,259,68",
    "6+4,-202b 4=70,73,74,77,79,7a e=72.73 1a!e 2f!f f=61.2f.63,61.2f.73,63,b0.63",
    "5=63.2f.6f,63.2f.75,25b 4=b0.66,67,68,68,68,68,127,69,69,6c,6c c=6e,6e.6f 4+3,-20a9 3=72,72",
    "4=73.6d,74.65.6c,74.6d 4=7a 2=3c9 2=7a 2=6b,e5,62,63 5=65,65,66,214e,6d,6f 6+4,-1b65 4=69",
    "2=66.61.78,3c0,3b3,3b3,3c0,2211 a=64,64,65,69,6a",
    "b=31.2044.37,31.2044.39,31.2044.31.30,31.2044.33,32.2044.33,31.2044.35",
    "6=32.2044.35,33.2044.35,34.2044.35,31.2044.36,35.2044.36,31.2044.38",
    "6=33.2044.38,35.2044.38,37.2044.38,31.2044,69,69.69,69.69.69,69.76,76",
    "9=76.69,76.69.69,76.69.69.69,69.78,78,78.69,78.69.69,6c,63,64,6d,69",
    "c=69.69,69.69.69,69.76,76,76.69,76.69.69,76.69.69.69,69.78,78,78.69 a=78.69.69,6c,63,64,6d",
    "8=2184 6=30.2044.33 3!4 a0=222b.222b,222b.222b.222b 3=222e.222e,222e.222e.222e fa+2,cdf",
    "101!16 21!15 15+9,-242f 9=31.30,31.31,31.32,31.33,31.34,31.35,31.36,31.37,31.38,31.39,32.30",
    "b=28.31.29,28.32.29,28.33.29,28.34.29,28.35.29,28.36.29,28.37.29",
    "7=28.38.29,28.39.29,28.31.30.29,28.31.31.29,28.31.32.29,28.31.33.29",
    "6=28.31.34.29,28.31.35.29,28.31.36.29,28.31.37.29,28.31.38.29 5=28.31.39.29,28.32.30.29 2!14",
    "14=28.61.29,28.62.29,28.63.29,28.64.29,28.65.29,28.66.29,28.67.29",
    "7=28.68.29,28.69.29,28.6a.29,28.6b.29,28.6c.29,28.6d.29,28.6e.29",
    "7=28.6f.29,28.70.29,28.71.29,28.72.29,28.73.29,28.74.29,28.75.29",
    "7=28.76.29,28.77.29,28.78.29,28.79.29,28.7a.29 5+1a,-2455 1a+1a,-246f 1a=30",
    "522=222b.222b.222b.222b 68=3a.3a.3d,3d.3d,3d.3d.3d 68=2add.338 98!2 8c+30,30 60=2c61",
    "2=26b,1d7d,27d 5|5 6=251,271,250,252 5=2c73 3=2c76 7=6a,76,23f,240,2c81 6|61 69|3 7=2cf3 2!5",
    "32!1 2!5 6!2 3a!7 7=2d61 2!e 26!9 10!1 8!1 8!1 8!1 8!1 8!1 8!1 8!1 7f!22 3c!1 5=6bcd 54=9f9f",
    "1!c c=4e00,4e28,4e36,4e3f,4e59,4e85,4e8c,4ea0,4eba,513f,5165,516b,5182,5196",
    "e=51ab,51e0,51f5,5200,529b,52f9,5315,531a,5338,5341,535c,5369,5382,53b6",
    "e=53c8,53e3,56d7,571f,58eb,5902,590a,5915,5927,5973,5b50,5b80,5bf8,5c0f",
    "e=5c22,5c38,5c6e,5c71,5ddb,5de5,5df1,5dfe,5e72,5e7a,5e7f,5ef4,5efe,5f0b",
    "e=5f13,5f50,5f61,5f73,5fc3,6208,6236,624b,652f,6534,6587,6597,65a4,65b9",
    "e=65e0,65e5,66f0,6708,6728,6b20,6b62,6b79,6bb3,6bcb,6bd4,6bdb,6c0f,6c14",
    "e=6c34,706b,722a,7236,723b,723f,7247,7259,725b,72ac,7384,7389,74dc,74e6",
    "e=7518,751f,7528,7530,758b,7592,7676,767d,76ae,76bf,76ee,77db,77e2,77f3",
    "e=793a,79b8,79be,7a74,7acb,7af9,7c73,7cf8,7f36,7f51,7f8a,7fbd,8001,800c",
    "e=8012,8033,807f,8089,81e3,81ea,81f3,81fc,820c,821b,821f,826e,8272,8278",
    "e=864d,866b,8840,884c,8863,897e,898b,89d2,8a00,8c37,8c46,8c55,8c78,8c9d",
    "e=8d64,8d70,8db3,8eab,8eca,8f9b,8fb0,8fb5,9091,9149,91c6,91cc,91d1,9577",
    "e=9580,961c,96b6,96b9,96e8,9751,975e,9762,9769,97cb,97ed,97f3,9801,98a8",
    "e=98db,98df,9996,9999,99ac,9aa8,9ad8,9adf,9b25,9b2f,9b32,9b3c,9b5a,9ce5",
    "e=9e75,9e7f,9ea5,9ebb,9ec3,9ecd,9ed1,9ef9,9efd,9f0e,9f13,9f20,9f3b,9f4a",
    "e=9f52,9f8d,9f9c,9fa0 4!2a 2a=20 2=2e 34=3012 2=5341,5344,5345 8!1 57!2 4=20.3099,20.309a",
    "4=3088.308a 60=30b3.30c8 1!5 30!1 1+2,-2031 2=11aa,1102,11ac,11ad 4+3,-2034 3+6,-1f8a 6=111a",
    "1+3,-203b 3=1121 1+a,-203c a+15,-1fee 15~1 1+2,-2051 2+2,-1fa0",
    "2=11cc,11ce,11d3,11d7,11d9,111c,11dd,11df,111d,111e,1120,1122,1123,1127 e=1129 1+5,-204d",
    "5=1132,1136,1140,1147,114c,11f1,11f2 7+3,-202d 3+2,-2003 2=1188,1191,1192,1194,119e,11a1 6!1",
    "3=4e00,4e8c,4e09,56db,4e0a,4e2d,4e0b,7532,4e59,4e19,4e01,5929,5730,4eba 54!a",
    "1a=28.1100.29,28.1102.29,28.1103.29,28.1105.29,28.1106.29,28.1107.29",
    "6=28.1109.29,28.110b.29,28.110c.29,28.110e.29,28.110f.29,28.1110.29",
    "6=28.1111.29,28.1112.29,28.ac00.29,28.b098.29,28.b2e4.29,28.b77c.29",
    "6=28.b9c8.29,28.bc14.29,28.c0ac.29,28.c544.29,28.c790.29,28.cc28.29",
    "6=28.ce74.29,28.d0c0.29,28.d30c.29,28.d558.29,28.c8fc.29 5=28.c624.c804.29,28.c624.d6c4.29",
    "2!1 1=28.4e00.29,28.4e8c.29,28.4e09.29,28.56db.29,28.4e94.29,28.516d.29",
    "6=28.4e03.29,28.516b.29,28.4e5d.29,28.5341.29,28.6708.29,28.706b.29",
    "6=28.6c34.29,28.6728.29,28.91d1.29,28.571f.29,28.65e5.29,28.682a.29",
    "6=28.6709.29,28.793e.29,28.540d.29,28.7279.29,28.8ca1.29,28.795d.29",
    "6=28.52b4.29,28.4ee3.29,28.547c.29,28.5b66.29,28.76e3.29,28.4f01.29",
    "6=28.8cc7.29,28.5354.29,28.796d.29,28.4f11.29,28.81ea.29,28.81f3.29 6=554f,5e7c,6587,7b8f",
    "c=70.74.65,32.31,32.32,32.33,32.34,32.35,32.36,32.37,32.38,32.39,33.30",
    "b=33.31,33.32,33.33,33.34,33.35,1100,1102,1103 8+3,-215e 3=1109,110b,110c 3+5,-215b",
    "5=ac00,b098,b2e4,b77c,b9c8,bc14,c0ac,c544,c790,cc28,ce74,d0c0,d30c,d558",
    "e=cc38.ace0,c8fc.c758,c6b0",
    "4=4e00,4e8c,4e09,56db,4e94,516d,4e03,516b,4e5d,5341,6708,706b,6c34,6728",
    "e=91d1,571f,65e5,682a,6709,793e,540d,7279,8ca1,795d,52b4,79d8,7537,5973",
    "e=9069,512a,5370,6ce8,9805,4f11,5199,6b63,4e0a,4e2d,4e0b,5de6,53f3,533b",
    "e=5b97,5b66,76e3,4f01,8cc7,5354,591c,33.36,33.37,33.38,33.39,34.30",
    "c=34.31,34.32,34.33,34.34,34.35,34.36,34.37,34.38,34.39,35.30,31.6708",
    "b=32.6708,33.6708,34.6708,35.6708,36.6708,37.6708,38.6708,39.6708",
    "8=31.30.6708,31.31.6708,31.32.6708,68.67,65.72.67,65.76,6c.74.64,30a2",
    "8=30a4,30a6,30a8,30aa,30ab,30ad,30af,30b1,30b3,30b5,30b7,30b9,30bb,30bd",
    "e=30bf,30c1,30c4,30c6,30c8 5+6,-21a 6=30d2,30d5,30d8,30db 4+5,-210 5=30e4,30e6 2+6,-20d",
    "6+4,-20c 4=4ee4.548c,30a2.30d1.30fc.30c8,30a2.30eb.30d5.30a1,30a2.30f3.30da.30a2",
    "4=30a2.30fc.30eb,30a4.30cb.30f3.30b0,30a4.30f3.30c1,30a6.30a9.30f3",
    "4=30a8.30b9.30af.30fc.30c9,30a8.30fc.30ab.30fc,30aa.30f3.30b9",
    "3=30aa.30fc.30e0,30ab.30a4.30ea,30ab.30e9.30c3.30c8,30ab.30ed.30ea.30fc",
    "4=30ac.30ed.30f3,30ac.30f3.30de,30ae.30ac,30ae.30cb.30fc",
    "4=30ad.30e5.30ea.30fc,30ae.30eb.30c0.30fc,30ad.30ed",
    "3=30ad.30ed.30b0.30e9.30e0,30ad.30ed.30e1.30fc.30c8.30eb",
    "2=30ad.30ed.30ef.30c3.30c8,30b0.30e9.30e0,30b0.30e9.30e0.30c8.30f3",
    "3=30af.30eb.30bc.30a4.30ed,30af.30ed.30fc.30cd,30b1.30fc.30b9",
    "3=30b3.30eb.30ca,30b3.30fc.30dd,30b5.30a4.30af.30eb",
    "3=30b5.30f3.30c1.30fc.30e0,30b7.30ea.30f3.30b0,30bb.30f3.30c1",
    "3=30bb.30f3.30c8,30c0.30fc.30b9,30c7.30b7,30c9.30eb,30c8.30f3,30ca.30ce",
    "6=30ce.30c3.30c8,30cf.30a4.30c4,30d1.30fc.30bb.30f3.30c8,30d1.30fc.30c4",
    "4=30d0.30fc.30ec.30eb,30d4.30a2.30b9.30c8.30eb,30d4.30af.30eb,30d4.30b3",
    "4=30d3.30eb,30d5.30a1.30e9.30c3.30c9,30d5.30a3.30fc.30c8",
    "3=30d6.30c3.30b7.30a7.30eb,30d5.30e9.30f3,30d8.30af.30bf.30fc.30eb",
    "3=30da.30bd,30da.30cb.30d2,30d8.30eb.30c4,30da.30f3.30b9,30da.30fc.30b8",
    "5=30d9.30fc.30bf,30dd.30a4.30f3.30c8,30dc.30eb.30c8,30db.30f3",
    "4=30dd.30f3.30c9,30db.30fc.30eb,30db.30fc.30f3,30de.30a4.30af.30ed",
    "4=30de.30a4.30eb,30de.30c3.30cf,30de.30eb.30af,30de.30f3.30b7.30e7.30f3",
    "4=30df.30af.30ed.30f3,30df.30ea,30df.30ea.30d0.30fc.30eb,30e1.30ac",
    "4=30e1.30ac.30c8.30f3,30e1.30fc.30c8.30eb,30e4.30fc.30c9,30e4.30fc.30eb",
    "4=30e6.30a2.30f3,30ea.30c3.30c8.30eb,30ea.30e9,30eb.30d4.30fc",
    "4=30eb.30fc.30d6.30eb,30ec.30e0,30ec.30f3.30c8.30b2.30f3,30ef.30c3.30c8",
    "4=30.70b9,31.70b9,32.70b9,33.70b9,34.70b9,35.70b9,36.70b9,37.70b9",
    "8=38.70b9,39.70b9,31.30.70b9,31.31.70b9,31.32.70b9,31.33.70b9",
    "6=31.34.70b9,31.35.70b9,31.36.70b9,31.37.70b9,31.38.70b9,31.39.70b9",
    "6=32.30.70b9,32.31.70b9,32.32.70b9,32.33.70b9,32.34.70b9,68.70.61,64.61",
    "7=61.75,62.61.72,6f.76,70.63,64.6d,64.6d.32,64.6d.33,69.75,5e73.6210",
    "9=662d.548c,5927.6b63,660e.6cbb,682a.5f0f.4f1a.793e,70.61,6e.61,3bc.61",
    "7=6d.61,6b.61,6b.62,6d.62,67.62,63.61.6c,6b.63.61.6c,70.66,6e.66,3bc.66",
    "a=3bc.67,6d.67,6b.67,68.7a,6b.68.7a,6d.68.7a,67.68.7a,74.68.7a,3bc.6c",
    "9=6d.6c,64.6c,6b.6c,66.6d,6e.6d,3bc.6d,6d.6d,63.6d,6b.6d,6d.6d.32",
    "a=63.6d.32,6d.32,6b.6d.32,6d.6d.33,63.6d.33,6d.33,6b.6d.33,6d.2215.73",
    "8=6d.2215.73.32,70.61,6b.70.61,6d.70.61,67.70.61,72.61.64",
    "6=72.61.64.2215.73,72.61.64.2215.73.32,70.73,6e.73,3bc.73,6d.73,70.76",
    "7=6e.76,3bc.76,6d.76,6b.76,6d.76,70.77,6e.77,3bc.77,6d.77,6b.77,6d.77 b=6b.3c9,6d.3c9 2!1",
    "1=62.71,63.63,63.64,63.2215.6b.67 4!1",
    "1=64.62,67.79,68.61,68.70,69.6e,6b.6b,6b.6d,6b.74,6c.6d,6c.6e,6c.6f.67",
    "b=6c.78,6d.62,6d.69.6c,6d.6f.6c,70.68 5!1",
    "1=70.70.6d,70.72,73.72,73.76,77.62,76.2215.6d,61.2215.6d,31.65e5",
    "8=32.65e5,33.65e5,34.65e5,35.65e5,36.65e5,37.65e5,38.65e5,39.65e5",
    "8=31.30.65e5,31.31.65e5,31.32.65e5,31.33.65e5,31.34.65e5,31.35.65e5",
    "6=31.36.65e5,31.37.65e5,31.38.65e5,31.39.65e5,32.30.65e5,32.31.65e5",
    "6=32.32.65e5,32.33.65e5,32.34.65e5,32.35.65e5,32.36.65e5,32.37.65e5",
    "6=32.38.65e5,32.39.65e5,33.30.65e5,33.31.65e5,67.61.6c 7092!3 3a!9 165!14 14|2d 40|1b",
    "1c=44a,44c 5c!8 2a|d 10|3d 3e=a76f 9|3 4=1d79,a77f 3|7 b=a78c 2=265 3|3 6|13",
    "14=266,25c,261,26c,26a 6=29e,287,29d,ab53,a7b5 6|d e=a794,282,1d8e,a7c8 5=a7ca 2=264,a7cd",
    "3|d e=19b,277 2!13 13=73,63,66,71,a7f6 7=127,153 35!3 d!6 3e!8 4e!8 14!6 7a!b 29!3 51!1 c!4",
    "25!1 38!9 17!2 c!2 69!18 34!a 10!2 8!2 8!9 10!1 8!1 2d=a727,ab37,26b,ab52 d=28d 3!4",
    "4+50,-97d0 7e!2 c!6 2baa!c 23!4 35!2104",
    "2104=8c48,66f4,8eca,8cc8,6ed1,4e32,53e5,9f9c,9f9c,5951,91d1,5587,5948,61f6",
    "e=7669,7f85,863f,87ba,88f8,908f,6a02,6d1b,70d9,73de,843d,916a,99f1,4e82",
    "e=5375,6b04,721b,862d,9e1e,5d50,6feb,85cd,8964,62c9,81d8,881f,5eca,6717",
    "e=6d6a,72fc,90ce,4f86,51b7,52de,64c4,6ad3,7210,76e7,8001,8606,865c,8def",
    "e=9732,9b6f,9dfa,788c,797f,7da0,83c9,9304,9e7f,8ad6,58df,5f04,7c60,807e",
    "e=7262,78ca,8cc2,96f7,58d8,5c62,6a13,6dda,6f0f,7d2f,7e37,964b,52d2,808b",
    "e=51dc,51cc,7a1c,7dbe,83f1,9675,8b80,62cf,6a02,8afe,4e39,5be7,6012,7387",
    "e=7570,5317,78fb,4fbf,5fa9,4e0d,6ccc,6578,7d22,53c3,585e,7701,8449,8aaa",
    "e=6bba,8fb0,6c88,62fe,82e5,63a0,7565,4eae,5169,51c9,6881,7ce7,826f,8ad2",
    "e=91cf,52f5,5442,5973,5eec,65c5,6ffe,792a,95ad,9a6a,9e97,9ece,529b,66c6",
    "e=6b77,8f62,5e74,6190,6200,649a,6f23,7149,7489,79ca,7df4,806f,8f26,84ee",
    "e=9023,934a,5217,52a3,54bd,70c8,88c2,8aaa,5ec9,5ff5,637b,6bae,7c3e,7375",
    "e=4ee4,56f9,5be7,5dba,601c,73b2,7469,7f9a,8046,9234,96f6,9748,9818,4f8b",
    "e=79ae,91b4,96b8,60e1,4e86,50da,5bee,5c3f,6599,6a02,71ce,7642,84fc,907c",
    "e=9f8d,6688,962e,5289,677b,67f3,6d41,6e9c,7409,7559,786b,7d10,985e,516d",
    "e=622e,9678,502b,5d19,6dea,8f2a,5f8b,6144,6817,7387,9686,5229,540f,5c65",
    "e=6613,674e,68a8,6ce5,7406,75e2,7f79,88cf,88e1,91cc,96e2,533f,6eba,541d",
    "e=71d0,7498,85fa,96a3,9c57,9e9f,6797,6dcb,81e8,7acb,7b20,7c92,72c0,7099",
    "e=8b58,4ec0,8336,523a,5207,5ea6,62d3,7cd6,5b85,6d1e,66b4,8f3b,884c,964d",
    "e=898b,5ed3,5140,55c0 6=585a 2=6674 3=51de,732a,76ca,793c,795e,7965,798f,9756,7cbe,7fbd",
    "b=8612 2=8af8 3=9038,90fd",
    "5=98ef,98fc,9928,9db4,90de,96b7,4fae,50e7,514d,52c9,52e4,5351,559d,5606",
    "e=5668,5840,58a8,5c64,5c6e,6094,6168,618e,61f2,654f,65e2,6691,6885,6d77",
    "e=6e1a,6f22,716e,722b,7422,7891,793e,7949,7948,7950,7956,795d,798d,798e",
    "e=7a40,7a81,7bc0,7df4,7e09,7e41,7f72,8005,81ed,8279,8279,8457,8910,8996",
    "e=8b01,8b39,8cd3,8d08,8fb6,9038,96e3,97ff,983b,6075,242ee,8218 c!2",
    "2=4e26,51b5,5168,4f80,5145,5180,52c7,52fa,559d,5555,5599,55e2,585a,58b3",
    "e=5944,5954,5a62,5b28,5ed2,5ed9,5f69,5fad,60d8,614e,6108,618e,6160,61f2",
    "e=6234,63c4,641c,6452,6556,6674,6717,671b,6756,6b79,6bba,6d41,6edb,6ecb",
    "e=6f22,701e,716e,77a7,7235,72af,732a,7471,7506,753b,761d,761f,76ca,76db",
    "e=76f4,774a,7740,78cc,7ab1,7bc0,7c7b,7d5b,7df4,7f3e,8005,8352,83ef,8779",
    "e=8941,8986,8996,8abf,8af8,8acb,8b01,8afe,8aed,8b39,8b8a,8d08,8f38,9072",
    "e=9199,9276,967c,96e3,9756,97db,97ff,980b,983b,9b12,9f9c,2284a,22844",
    "d=233d5,3b9d,4018,4039,25249,25cd0,27ed3,9f43,9f8e 9!26",
    "26=66.66,66.69,66.6c,66.66.69,66.66.6c,73.74,73.74 7!c",
    "c=574.576,574.565,574.56b,57e.576,574.56d 5!5 5=5d9.5b4 2=5f2.5b7,5e2,5d0,5d3,5d4 5+3,-f549",
    "3=5e8,5ea,2b,5e9.5c1,5e9.5c2,5e9.5bc.5c1,5e9.5bc.5c2,5d0.5b7,5d0.5b8",
    "9=5d0.5bc,5d1.5bc,5d2.5bc,5d3.5bc,5d4.5bc,5d5.5bc,5d6.5bc 7!1",
    "1=5d8.5bc,5d9.5bc,5da.5bc,5db.5bc,5dc.5bc 5!1 1=5de.5bc 1!1 1=5e0.5bc,5e1.5bc 2!1",
    "1=5e3.5bc,5e4.5bc 2!1 1=5e6.5bc,5e7.5bc,5e8.5bc,5e9.5bc,5ea.5bc,5d5.5b9,5d1.5bf,5db.5bf",
    "8=5e4.5bf,5d0.5dc,671,671,67b,67b,67b,67b,67e,67e,67e,67e,680,680,680",
    "f=680,67a,67a,67a,67a,67f,67f,67f,67f,679,679,679,679,6a4,6a4,6a4,6a4",
    "11=6a6,6a6,6a6,6a6,684,684,684,684,683,683,683,683,686,686,686,686,687",
    "11=687,687,687,68d,68d,68c,68c,68e,68e,688,688,698,698,691,691,6a9,6a9",
    "11=6a9,6a9,6af,6af,6af,6af,6b3,6b3,6b3,6b3,6b1,6b1,6b1,6b1,6ba,6ba,6bb",
    "11=6bb,6bb,6bb,6c0,6c0,6c1,6c1,6c1,6c1,6be,6be,6be,6be,6d2,6d2,6d3,6d3",
    "32=6ad,6ad,6ad,6ad,6c7,6c7,6c6,6c6,6c8,6c8,6c7.674,6cb,6cb,6c5,6c5,6c9",
    "10=6c9,6d0,6d0,6d0,6d0,649,649,626.627,626.627,626.6d5,626.6d5,626.648",
    "c=626.648,626.6c7,626.6c7,626.6c6,626.6c6,626.6c8,626.6c8,626.6d0",
    "8=626.6d0,626.6d0,626.649,626.649,626.649,6cc,6cc,6cc,6cc,626.62c",
    "a=626.62d,626.645,626.649,626.64a,628.62c,628.62d,628.62e,628.645",
    "8=628.649,628.64a,62a.62c,62a.62d,62a.62e,62a.645,62a.649,62a.64a",
    "8=62b.62c,62b.645,62b.649,62b.64a,62c.62d,62c.645,62d.62c,62d.645",
    "8=62e.62c,62e.62d,62e.645,633.62c,633.62d,633.62e,633.645,635.62d",
    "8=635.645,636.62c,636.62d,636.62e,636.645,637.62d,637.645,638.645",
    "8=639.62c,639.645,63a.62c,63a.645,641.62c,641.62d,641.62e,641.645",
    "8=641.649,641.64a,642.62d,642.645,642.649,642.64a,643.627,643.62c",
    "8=643.62d,643.62e,643.644,643.645,643.649,643.64a,644.62c,644.62d",
    "8=644.62e,644.645,644.649,644.64a,645.62c,645.62d,645.62e,645.645",
    "8=645.649,645.64a,646.62c,646.62d,646.62e,646.645,646.649,646.64a",
    "8=647.62c,647.645,647.649,647.64a,64a.62c,64a.62d,64a.62e,64a.645",
    "8=64a.649,64a.64a,630.670,631.670,649.670,20.64c.651,20.64d.651",
    "7=20.64e.651,20.64f.651,20.650.651,20.651.670,626.631,626.632,626.645",
    "7=626.646,626.649,626.64a,628.631,628.632,628.645,628.646,628.649",
    "8=628.64a,62a.631,62a.632,62a.645,62a.646,62a.649,62a.64a,62b.631",
    "8=62b.632,62b.645,62b.646,62b.649,62b.64a,641.649,641.64a,642.649",
    "8=642.64a,643.627,643.644,643.645,643.649,643.64a,644.645,644.649",
    "8=644.64a,645.627,645.645,646.631,646.632,646.645,646.646,646.649",
    "8=646.64a,649.670,64a.631,64a.632,64a.645,64a.646,64a.649,64a.64a",
    "8=626.62c,626.62d,626.62e,626.645,626.647,628.62c,628.62d,628.62e",
    "8=628.645,628.647,62a.62c,62a.62d,62a.62e,62a.645,62a.647,62b.645",
    "8=62c.62d,62c.645,62d.62c,62d.645,62e.62c,62e.645,633.62c,633.62d",
    "8=633.62e,633.645,635.62d,635.62e,635.645,636.62c,636.62d,636.62e",
    "8=636.645,637.62d,638.645,639.62c,639.645,63a.62c,63a.645,641.62c",
    "8=641.62d,641.62e,641.645,642.62d,642.645,643.62c,643.62d,643.62e",
    "8=643.644,643.645,644.62c,644.62d,644.62e,644.645,644.647,645.62c",
    "8=645.62d,645.62e,645.645,646.62c,646.62d,646.62e,646.645,646.647",
    "8=647.62c,647.645,647.670,64a.62c,64a.62d,64a.62e,64a.645,64a.647",
    "8=626.645,626.647,628.645,628.647,62a.645,62a.647,62b.645,62b.647",
    "8=633.645,633.647,634.645,634.647,643.644,643.645,644.645,646.645",
    "8=646.647,64a.645,64a.647,640.64e.651,640.64f.651,640.650.651,637.649",
    "7=637.64a,639.649,639.64a,63a.649,63a.64a,633.649,633.64a,634.649",
    "8=634.64a,62d.649,62d.64a,62c.649,62c.64a,62e.649,62e.64a,635.649",
    "8=635.64a,636.649,636.64a,634.62c,634.62d,634.62e,634.645,634.631",
    "8=633.631,635.631,636.631,637.649,637.64a,639.649,639.64a,63a.649",
    "8=63a.64a,633.649,633.64a,634.649,634.64a,62d.649,62d.64a,62c.649",
    "8=62c.64a,62e.649,62e.64a,635.649,635.64a,636.649,636.64a,634.62c",
    "8=634.62d,634.62e,634.645,634.631,633.631,635.631,636.631,634.62c",
    "8=634.62d,634.62e,634.645,633.647,634.647,637.645,633.62c,633.62d",
    "8=633.62e,634.62c,634.62d,634.62e,637.645,638.645,627.64b,627.64b",
    "1a=62a.62c.645,62a.62d.62c,62a.62d.62c,62a.62d.645,62a.62e.645",
    "5=62a.645.62c,62a.645.62d,62a.645.62e,62c.645.62d,62c.645.62d",
    "5=62d.645.64a,62d.645.649,633.62d.62c,633.62c.62d,633.62c.649",
    "5=633.645.62d,633.645.62d,633.645.62c,633.645.645,633.645.645",
    "5=635.62d.62d,635.62d.62d,635.645.645,634.62d.645,634.62d.645",
    "5=634.62c.64a,634.645.62e,634.645.62e,634.645.645,634.645.645",
    "5=636.62d.649,636.62e.645,636.62e.645,637.645.62d,637.645.62d",
    "5=637.645.645,637.645.64a,639.62c.645,639.645.645,639.645.645",
    "5=639.645.649,63a.645.645,63a.645.64a,63a.645.649,641.62e.645",
    "5=641.62e.645,642.645.62d,642.645.645,644.62d.645,644.62d.64a",
    "5=644.62d.649,644.62c.62c,644.62c.62c,644.62e.645,644.62e.645",
    "5=644.645.62d,644.645.62d,645.62d.62c,645.62d.645,645.62d.64a",
    "5=645.62c.62d,645.62c.645,645.62e.62c,645.62e.645",
    "6=645.62c.62e,647.645.62c,647.645.645,646.62d.645,646.62d.649",
    "5=646.62c.645,646.62c.645,646.62c.649,646.645.64a,646.645.649",
    "5=64a.645.645,64a.645.645,628.62e.64a,62a.62c.64a,62a.62c.649",
    "5=62a.62e.64a,62a.62e.649,62a.645.64a,62a.645.649,62c.645.64a",
    "5=62c.62d.649,62c.645.649,633.62e.649,635.62d.64a,634.62d.64a",
    "5=636.62d.64a,644.62c.64a,644.645.64a,64a.62d.64a,64a.62c.64a",
    "5=64a.645.64a,645.645.64a,642.645.64a,646.62d.64a,642.645.62d",
    "5=644.62d.645,639.645.64a,643.645.64a,646.62c.62d,645.62e.64a",
    "5=644.62c.645,643.645.645,644.62c.645,646.62c.62d,62c.62d.64a",
    "5=62d.62c.64a,645.62c.64a,641.645.64a,628.62d.64a,643.645.645",
    "5=639.62c.645,635.645.645,633.62e.64a,646.62c.64a c!20",
    "20=635.644.6d2,642.644.6d2,627.644.644.647,627.643.628.631",
    "4=645.62d.645.62f,635.644.639.645,631.633.648.644,639.644.64a.647",
    "4=648.633.644.645,635.644.649",
    "2=635.644.649.20.627.644.644.647.20.639.644.64a.647.20.648.633.644.645",
    "1=62c.644.20.62c.644.627.644.647,631.6cc.627.644 5~10 10=2c,3001 2!1 1+2,-fdd9",
    "2=21,3f,3016,3017 4!7 17!1",
    "1=2014,2013,5f,5f,28,29,7b,7d,3014,3015,3010,3011,300a,300b,3008,3009 10+4,-ce35",
    "6=5b,5d,20.305,20.305,20.305,20.305,5f,5f,5f,2c,3001 b!2",
    "2=3b,3a,3f,21,2014,28,29,7b,7d,3014,3015,23,26,2a,2b,2d,3c,3e,3d 13!1 1=5c,24,25,40 4!4",
    "4=20.64b,640.64b,20.64c 4=20.64d 1!1",
    "1=20.64e,640.64e,20.64f,640.64f,20.650,640.650,20.651,640.651,20.652",
    "9=640.652,621,622,622,623,623,624,624,625,625,626,626,626,626,627,627",
    "10=628,628,628,628,629,629,62a,62a,62a,62a,62b,62b,62b,62b,62c,62c,62c",
    "11=62c,62d,62d,62d,62d,62e,62e,62e,62e,62f,62f,630,630,631,631,632,632",
    "11=633,633,633,633,634,634,634,634,635,635,635,635,636,636,636,636,637",
    "11=637,637,637,638,638,638,638,639,639,639,639,63a,63a,63a,63a,641,641",
    "11=641,641,642,642,642,642,643,643,643,643,644,644,644,644,645,645,645",
    "11=645,646,646,646,646,647,647,647,647,648,648,649,649,64a,64a,64a,64a",
    "11=644.622,644.622,644.623,644.623,644.625,644.625,644.627,644.627 8!2 2~1 1!1 1+20,-fee0",
    "20+1a,-fec0 1a+24,-fee0 24+2,-d5da",
    "2=2e,300c,300d,3001,30fb,30f2,30a1,30a3,30a5,30a7,30a9,30e3,30e5,30e7",
    "e=30c3,30fc,30a2,30a4,30a6,30a8,30aa,30ab,30ad,30af,30b1,30b3,30b5,30b7",
    "e=30b9,30bb,30bd,30bf,30c1,30c4,30c6,30c8 8+6,-cebb 6=30d2,30d5,30d8,30db 4+5,-ceb1",
    "5=30e4,30e6 2+6,-ceae 6=30ef,30f3,3099,309a 4~1 1+2,-eea1 2=11aa,1102,11ac,11ad 4+3,-eea4",
    "3+6,-edfa 6=111a 1+3,-eeab 3=1121 1+a,-eeac a!3 3+6,-ee61 6!2 2+6,-ee63 6!2 2+6,-ee65 6!2",
    "2+3,-ee67 3!3 3+2,-ff3e 2=ac,20.304,a6,a5,20a9 5!1 1=2502 1+4,-de59 4=25a0,25cb 2!11 1d!1",
    "1b!1 14!1 3!1 10!2 10!22 9d!5 8!4 31!3 5b!1 e!3 4!2f 5d!82 9f!3 34!f 2b!4 28!9 27!5 30!5",
    "23!1 26!4 12!2a 2a+28,28 9e!2 c!6 6+24,28 24!4 28!4 2c!8 3c!b c+b,27 b!1 1+f,27 f!1 1+7,27",
    "7!1 1+2,27 2!1 c!1 10!1 8!1 3!3 37!c 143!9 1f!a 12!18 19+2,-104b1 2=e6,299,253 3!1",
    "1=2a3,ab66,2a5,2a4,256,257,1d91,258,25e,2a9,264,262,260,29b,127,29c,267",
    "11=284,2aa,2ab,26c,1df04,a78e,26e,1df05,28e,1df06,f8,276,277,71,27a",
    "f=1df08,27d,27e,280,2a8,2a6,ab67,2a7,288,2c71 a!1 1=28f,2a1,2a2,298 4+3,-105f6 3=1df0a,1df1e",
    "2!45 4b!2 3!1 2d!1 3!3 4!2 19!1 49!8 11!30 43!1 3!5 26!3 1e!5 20!26 5e!4 18!2 34!1 3!5 d!1",
    "4!1 1e!2 5!4 e!7 10!7 47!20 47!4 10!9 3f!3 20!2 1d!5 1f!7 b!c 13!50 99!37 37+33,40 33!d 40!7",
    "35!8 12!6 16+16,20 16!3 20!8 a!d0 ef!1 2b!1 4!2 4!10 16!8 11!21 4f!8 32!16 30!26 42!14 2b!9",
    "57!4 28!9 47!1 6!d 26!7 11!6 3b!1 13!8 2f!9 69!1 15!b 1d!1 30!3e 45!1 2!1 5!1 10!1 c!6 41!5",
    "f!6 a!1 9!2 4!2 18!1 8!1 3!1 6!1 b!2 4!2 5!2 3!6 7!5 c!2 9!3 8!b 15!1 2!2 3!1 27!1 b!1 2!2",
    "3!1 5!1 b!1 3!8 a!1d 79!1 6!1e 66!8 12!a6 dc!2 28!22 67!b 15!6 13!13 4d!6 10!6 1a!1c 37!2",
    "11!4 1b!b9 f5!64 64+20,20 53!c 14!2 3!2 a!1 3!1 1f!1 3!2 e!9 13!46 4e!2 30!2 d!1b 63!8 5b!d",
    "56!7 11!56 5e!58 7a!e 18!6 f!1 2e!1 f!a 27!3 23!2 18!1 f!49 50!1 3!1 2d!3 4!1 3!1 a!8 12!6",
    "c!1 3!1 26!1 3!1 7!7 11!6 32!4 e!f6 10f!7 18!1 2a!3 20!55 56!f 41!d 3a8!66 d5!1 6!b cf!a4c",
    "aaf!d 43d!10 26!a fa5!5 24c!1ab9 1af3!6c6 8ff!7 26!1 b!4 55!1 b!6 24!2 8!a 50!a 14!1 8!1",
    "16!5 18!1b0 1ea!c6 c6+20,20 5b!5 5+19,1b 19!2 1b!2c 77!4 3d!7 18!40 45!b 12!9 1cdf!29 49!61",
    "d4!21fd 2201!1 8!1 3!1 124!f 10!1d 20!2 3!e 12!8 194!904 96f!5 12!3 c!7 11!2 6~4 4!f5c",
    "1032+1a,-1cc75 1a+a,-1ccc0 d!3 1b7!6 1d!f 20!f 3d!2 19!9 7d!3c 132!a 31!2",
    "37=1d157.1d165,1d158.1d165,1d158.1d165.1d16e,1d158.1d165.1d16f",
    "4=1d158.1d165.1d170,1d158.1d165.1d171,1d158.1d165.1d172 11~8",
    "48=1d1b9.1d165,1d1ba.1d165,1d1b9.1d165.1d16e,1d1ba.1d165.1d16e",
    "4=1d1b9.1d165.1d16f,1d1ba.1d165.1d16f 2c!15 5b!7a 8e!c 20!c 63!9 22!87 87+1a,-1d39f",
    "1a+1a,-1d3b9 1a+1a,-1d3d3 1a+7,-1d3ed 7!1 1+12,-1d3ed 12+1a,-1d407 1a+1a,-1d421 1a=61 1!1",
    "1+2,-1d43b 2!2 2=67 1!2 2+2,-1d43b 2!2 2+4,-1d43b 4!1 1+8,-1d43b 8+4,-1d455 4!1 1=66 1!1",
    "1+7,-1d455 7!1 1+b,-1d455 b+1a,-1d46f 1a+1a,-1d489 1a+2,-1d4a3 2!1 1+4,-1d4a3 4!2 2+8,-1d4a3",
    "8!1 1+7,-1d4a3 7!1 1+1a,-1d4bd 1a+2,-1d4d7 2!1 1+4,-1d4d7 4!1 1+5,-1d4d7 5!1 1=6f 1!3",
    "3+7,-1d4d7 7!1 1+1a,-1d4f1 1a+1a,-1d50b 1a+1a,-1d525 1a+1a,-1d53f 1a+1a,-1d559 1a+1a,-1d573",
    "1a+1a,-1d58d 1a+1a,-1d5a7 1a+1a,-1d5c1 1a+1a,-1d5db 1a+1a,-1d5f5 1a+1a,-1d60f 1a+1a,-1d629",
    "1a=131,237 2!2 2+11,-1d2f7 11=3b8 1+7,-1d2f7 7=2207 1+11,-1d311 11=3c3 1+7,-1d311",
    "7=2202,3b5,3b8,3ba,3c6,3c1,3c0 7+11,-1d331 11=3b8 1+7,-1d331 7=2207 1+11,-1d34b 11=3c3",
    "1+7,-1d34b 7=2202,3b5,3b8,3ba,3c6,3c1,3c0 7+11,-1d36b 11=3b8 1+7,-1d36b 7=2207 1+11,-1d385",
    "11=3c3 1+7,-1d385 7=2202,3b5,3b8,3ba,3c6,3c1,3c0 7+11,-1d3a5 11=3b8 1+7,-1d3a5 7=2207",
    "1+11,-1d3bf 11=3c3 1+7,-1d3bf 7=2202,3b5,3b8,3ba,3c6,3c1,3c0 7+11,-1d3df 11=3b8 1+7,-1d3df",
    "7=2207 1+11,-1d3f9 11=3c3 1+7,-1d3f9 7=2202,3b5,3b8,3ba,3c6,3c1,3c0,3dd,3dd 9!2 2+a,-1d79e",
    "a+a,-1d7a8 a+a,-1d7b2 a+a,-1d7bc a+a,-1d7c6 296!f 14!1 10!450 46f!6 c!d5 dc!1 12!2 9!1 3!1",
    "6!5 5+9,-1dc00 9+3,-1dbff 3+b,-1dbfe b=44b,44d,44e,a689,4d9,456,458,4e9,4af,4cf a+9,-1dc21",
    "9+2,-1dc20 2+2,-1dc1e 2=441 1+6,-1dc1c 6+2,-1dc1b 2=491,456,455,45f,4ab,a651,4b1 7!21 22!70",
    "9d!3 11!2 c!4 6!140 15f!11 4b!5 6!1d0 1fa!d6 101!4 5!c0 df!1 17!8 a!e0 e7!1 5!1 3!1 10!1",
    "c6!2 12!29 29+22,22 4c!4 e!4 6!311 355!4c 89!c2 c2+2,-1e7d9 2=62c,62f 2!1",
    "1=648,632,62d,637,64a 5+4,-1e7c7",
    "4=633,639,641,635,642,631,634,62a,62b,62e,630,636,638,63a,66e,6ba,6a1 11=66f 1!1 1=628,62c",
    "2!1 1=647 1!2 2=62d 1!1 1=64a 1+4,-1e7e7 4=633,639,641,635,642 5!1 1=634,62a,62b,62e 4!1",
    "1=636 1!1 1=63a 1!6 6=62c 1!4 4=62d 1!1 1=64a 1!1 1=644 1!1 1=646,633,639 3!1 1=635,642 2!1",
    "1=634 1!2 2=62e 1!1 1=636 1!1 1=63a 1!1 1=6ba 1!1 1=66f 1!1 1=628,62c 2!1 1=647 1!2",
    "2=62d,637,64a,643 4!1 1+2,-1e827 2=633,639,641,635,642 5!1 1=634,62a,62b,62e 4!1",
    "1=636,638,63a,66e 4!1 1=6a1 1!1 1+2,-1e859 2=62c,62f,647,648,632,62d,637,64a 8!1 1+3,-1e847",
    "3=633,639,641,635,642,631,634,62a,62b,62e,630,636,638,63a e!5 5=628,62c,62f 3!1",
    "1=648,632,62d,637,64a 5!1 1+3,-1e867",
    "3=633,639,641,635,642,631,634,62a,62b,62e,630,636,638,63a e!34 36!10e 13a!4 68!c 1b!2 11!1",
    "10!1 26!b b=30.2c,31.2c,32.2c,33.2c,34.2c,35.2c,36.2c,37.2c,38.2c,39.2c",
    "f=28.61.29,28.62.29,28.63.29,28.64.29,28.65.29,28.66.29,28.67.29",
    "7=28.68.29,28.69.29,28.6a.29,28.6b.29,28.6c.29,28.6d.29,28.6e.29",
    "7=28.6f.29,28.70.29,28.71.29,28.72.29,28.73.29,28.74.29,28.75.29",
    "7=28.76.29,28.77.29,28.78.29,28.79.29,28.7a.29,3014.73.3015,63,72,63.64 9=77.7a 2+1a,-1f0cf",
    "1a=68.76,6d.76,73.64,73.73,70.70.76,77.63 20=6d.63,6d.64,6d.72 26=64.6a 1e!38",
    "52=307b.304b,30b3.30b3,30b5 3!d",
    "d=624b,5b57,53cc,30c7,4e8c,591a,89e3,5929,4ea4,6620,7121,6599,524d,5f8c",
    "e=518d,65b0,521d,7d42,751f,8ca9,58f0,5439,6f14,6295,6355,4e00,4e09,904a",
    "e=5de6,4e2d,53f3,6307,8d70,6253,7981,7a7a,5408,6e80,6709,6708,7533,5272 e=55b6,914d 2!4",
    "4=3014.672c.3015,3014.4e09.3015,3014.4e8c.3015,3014.5b89.3015",
    "4=3014.70b9.3015,3014.6253.3015,3014.76d7.3015,3014.52dd.3015 4=3014.6557.3015 1!7",
    "7=5f97,53ef 2!e 14!9a 473!3 14!3 10!3 dd!6 12!4 5!f 1b!4 3c!8 12!6 2e!8 26!2 e!4 6!e 17!27",
    "17f!8 16!2 f!3 e!3 3c!1 2!4 14!2 e!4 e!7 9a!1 5d+a,-1fbc0 b!405 aae5!20 113e!2 1690!2 1d33!f",
    "27d!9a2 9a2=4e3d,4e38,4e41,20122,4f60,4fae,4fbb,5002,507a,5099,50e7,50cf,349e",
    "d=2063a,514d,5154,5164,5177,2051c,34b9,5167,518d,2054b,5197,51a4,4ecc",
    "d=51ac,51b5,291df,51f5,5203,34df,523b,5246,5272,5277,3515,52c7,52c9",
    "d=52e4,52fa,5305,5306,5317,5349,5351,535a,5373,537d,537f,537f,537f",
    "d=20a2c,7070,53ca,53df,20b63,53eb,53f1,5406,549e,5438,5448,5468,54a2",
    "d=54f6,5510,5553,5563,5584,5584,5599,55ab,55b3,55c2,5716,5606,5717,5651",
    "e=5674,5207,58ee,57ce,57f4,580d,578b,5832,5831,58ac,214e4,58f2,58f7",
    "d=5906,591a,5922,5962,216a8,216ea,59ec,5a1b,5a27,59d8,5a66,36ee,36fc",
    "d=5b08,5b3e,5b3e,219c8,5bc3,5bd8,5be7,5bf3,21b18,5bff,5c06,5f53,5c22",
    "d=3781,5c60,5c6e,5cc0,5c8d,21de4,5d43,21de6,5d6e,5d6b,5d7c,5de1,5de2",
    "d=382f,5dfd,5e28,5e3d,5e69,3862,22183,387c,5eb0,5eb3,5eb6,5eca,2a392",
    "d=5efe,22331,22331,8201,5f22,5f22,38c7,232b8,261da,5f62,5f6b,38e3,5f9a",
    "d=5fcd,5fd7,5ff9,6081,393a,391c,6094,226d4,60c7,6148,614c,614e,614c",
    "d=617a,618e,61b2,61a4,61af,61de,61f2,61f6,6210,621b,625d,62b1,62d4,6350",
    "e=22b0c,633d,62fc,6368,6383,63e4,22bf1,6422,63c5,63a9,3a2e,6469,647e",
    "d=649d,6477,3a6c,654f,656c,2300a,65e3,66f8,6649,3b19,6691,3b08,3ae4",
    "d=5192,5195,6700,669c,80ad,43d9,6717,671b,6721,675e,6753,233c3,3b49",
    "d=67fa,6785,6852,6885,2346d,688e,681f,6914,3b9d,6942,69a3,69ea,6aa8",
    "d=236a3,6adb,3c18,6b21,238a7,6b54,3c4e,6b72,6b9f,6bba,6bbb,23a8d,21d0b",
    "d=23afa,6c4e,23cbc,6cbf,6ccd,6c67,6d16,6d3e,6d77,6d41,6d69,6d78,6d85",
    "d=23d1e,6d34,6e2f,6e6e,3d33,6ecb,6ec7,23ed1,6df9,6f6e,23f5e,23f8e,6fc6",
    "d=7039,701e,701b,3d96,704a,707d,7077,70ad,20525,7145,24263,719c,243ab",
    "d=7228,7235,7250,24608,7280,7295,24735,24814,737a,738b,3eac,73a5,3eb8",
    "d=3eb8,7447,745c,7471,7485,74ca,3f1b,7524,24c36,753e,24c92,7570,2219f",
    "d=7610,24fa1,24fb8,25044,3ffc,4008,76f4,250f3,250f2,25119,25133,771e",
    "c=771f,771f,774a,4039,778b,4046,4096,2541d,784e,788c,78cc,40e3,25626",
    "d=7956,2569a,256c5,798f,79eb,412f,7a40,7a4a,7a4f,2597c,25aa7,25aa7,7aee",
    "d=4202,25bab,7bc6,7bc9,4227,25c80,7cd2,42a0,7ce8,7ce3,7d00,25f86,7d63",
    "d=4301,7dc7,7e02,7e45,4334,26228,26247,4359,262d9,7f7a,2633e,7f95,7ffa",
    "d=8005,264da,26523,8060,265a8,8070,2335f,43d5,80b2,8103,440b,813e,5ab5",
    "d=267a7,267b5,23393,2339c,8201,8204,8f9e,446b,8291,828b,829d,52b3,82b1",
    "d=82b3,82bd,82e6,26b3c,82e5,831d,8363,83ad,8323,83bd,83e7,8457,8353",
    "d=83ca,83cc,83dc,26c36,26d6b,26cd5,452b,84f1,84f3,8516,273ca,8564,26f2c",
    "d=455d,4561,26fb1,270d2,456b,8650,865c,8667,8669,86a9,8688,870e,86e2",
    "d=8779,8728,876b,8786,45d7,87e1,8801,45f9,8860,8863,27667,88d7,88de",
    "d=4635,88fa,34bb,278ae,27966,46be,46c7,8aa0,8aed,8b8a,8c55,27ca8,8cab",
    "d=8cc1,8d1b,8d77,27f2f,20804,8dcb,8dbc,8df0,208de,8ed4,8f38,285d2,285ed",
    "d=9094,90f1,9111,2872e,911b,9238,92d7,92d8,927c,93f9,9415,28bfa,958b",
    "d=4995,95b7,28d77,49e6,96c3,5db2,9723,29145,2921a,4a6e,4a76,97e0,2940a",
    "d=4ab2,29496,980b,980b,9829,295b6,98e2,4b33,9929,99a7,99c2,99fe,4bce",
    "d=29b30,9b12,9c40,9cfd,4cce,4ced,9d67,2a0ce,4cf8,2a105,2a20e,2a291,9ebb",
    "d=4d56,9ef9,9efe,9f05,9f0f,9f16,9f3b,2a600 8!5e2 192d!5 212f!acc86 acc86~f0 f0!2fe10"]

end ClarityCheck.Url.Domain
