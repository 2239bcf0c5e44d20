import RoutineAtlas.Text.CharLabels
import RoutineAtlas.Text.CharMap

/-!
# Composed characters

A letter with its accents can be written as one character or as several. `Text.composed` takes the
characters apart, puts the marks on each letter into their order, and joins again what has a
character of its own. Two texts that differ only in such spellings become equal.

The tables cover the characters that a domain name may hold.
-/

namespace RoutineAtlas

/-- The classes of the characters that combine with the one before them. Marks of different classes
do not touch each other, so that their order tells nothing. -/
def combiningClasses : CharLabels := .ofLines
  ["300-314=230 315=232 316-319=220 31a=232 31b=216 31c-320=220 321-322=202 323-326=220",
   "327-328=202 329-333=220 334-338=1 339-33c=220 33d-346=230 347-349=220 34a-34c=230",
   "34d-34e=220 350-352=230 353-356=220 357=230 358=232 359-35a=220 35b=230 35c=233",
   "35d-35e=234 35f=233 360-361=234 362=233 363-36f=230 483-487=230 591=220 592-595=230",
   "596=220 597-599=230 59a=222 59b=220 59c-5a1=230 5a2-5a7=220 5a8-5a9=230 5aa=220",
   "5ab-5ac=230 5ad=222 5ae=228 5af=230 5b0=10 5b1=11 5b2=12 5b3=13 5b4=14 5b5=15 5b6=16",
   "5b7=17 5b8=18 5b9-5ba=19 5bb=20 5bc=21 5bd=22 5bf=23 5c1=24 5c2=25 5c4=230 5c5=220 5c7=18",
   "610-617=230 618=30 619=31 61a=32 64b=27 64c=28 64d=29 64e=30 64f=31 650=32 651=33 652=34",
   "653-654=230 655-656=220 657-65b=230 65c=220 65d-65e=230 65f=220 670=35 6d6-6dc=230",
   "6df-6e2=230 6e3=220 6e4=230 6e7-6e8=230 6ea=220 6eb-6ec=230 6ed=220 711=36 730=230 731=220",
   "732-733=230 734=220 735-736=230 737-739=220 73a=230 73b-73c=220 73d=230 73e=220",
   "73f-741=230 742=220 743=230 744=220 745=230 746=220 747=230 748=220 749-74a=230",
   "7eb-7f1=230 7f2=220 7f3=230 7fd=220 816-819=230 81b-823=230 825-827=230 829-82d=230",
   "859-85b=220 897-898=230 899-89b=220 89c-89f=230 8ca-8ce=230 8cf-8d3=220 8d4-8e1=230",
   "8e3=220 8e4-8e5=230 8e6=220 8e7-8e8=230 8e9=220 8ea-8ec=230 8ed-8ef=220 8f0=27 8f1=28",
   "8f2=29 8f3-8f5=230 8f6=220 8f7-8f8=230 8f9-8fa=220 8fb-8ff=230 93c=7 94d=9 951=230 952=220",
   "953-954=230 9bc=7 9cd=9 9fe=230 a3c=7 a4d=9 abc=7 acd=9 b3c=7 b4d=9 bcd=9 c3c=7 c4d=9",
   "c55=84 c56=91 cbc=7 ccd=9 d3b-d3c=9 d4d=9 dca=9 e38-e39=103 e3a=9 e48-e4b=107 eb8-eb9=118",
   "eba=9 ec8-ecb=122 f18-f19=220 f35=220 f37=220 f39=216 f71=129 f72=130 f74=132 f7a-f7d=130",
   "f80=130 f82-f83=230 f84=9 f86-f87=230 fc6=220 1037=7 1039-103a=9 108d=220 135d-135f=230",
   "1714-1715=9 1734=9 17d2=9 17dd=230 18a9=228 1939=222 193a=230 193b=220 1a17=230 1a18=220",
   "1a60=9 1a75-1a7c=230 1a7f=220 1ab0-1ab4=230 1ab5-1aba=220 1abb-1abc=230 1abd=220",
   "1abf-1ac0=220 1ac1-1ac2=230 1ac3-1ac4=220 1ac5-1ac9=230 1aca=220 1acb-1adc=230 1add=220",
   "1ae0-1ae5=230 1ae6=220 1ae7-1aea=230 1aeb=234 1b34=7 1b44=9 1b6b=230 1b6c=220",
   "1b6d-1b73=230 1baa-1bab=9 1be6=7 1bf2-1bf3=9 1c37=7 1cd0-1cd2=230 1cd4=1 1cd5-1cd9=220",
   "1cda-1cdb=230 1cdc-1cdf=220 1ce0=230 1ce2-1ce8=1 1ced=220 1cf4=230 1cf8-1cf9=230",
   "1dc0-1dc1=230 1dc2=220 1dc3-1dc9=230 1dca=220 1dcb-1dcc=230 1dcd=234 1dce=214 1dcf=220",
   "1dd0=202 1dd1-1df5=230 1df6=232 1df7-1df8=228 1df9=220 1dfa=218 1dfb=230 1dfc=233 1dfd=220",
   "1dfe=230 1dff=220 20d0-20d1=230 20d2-20d3=1 20d4-20d7=230 20d8-20da=1 20db-20dc=230",
   "20e1=230 20e5-20e6=1 20e7=230 20e8=220 20e9=230 20ea-20eb=1 20ec-20ef=220 20f0=230",
   "2cef-2cf1=230 2d7f=9 2de0-2dff=230 302a=218 302b=228 302c=232 302d=222 302e-302f=224",
   "3099-309a=8 a66f=230 a674-a67d=230 a69e-a69f=230 a6f0-a6f1=230 a806=9 a82c=9 a8c4=9",
   "a8e0-a8f1=230 a92b-a92d=220 a953=9 a9b3=7 a9c0=9 aab0=230 aab2-aab3=230 aab4=220",
   "aab7-aab8=230 aabe-aabf=230 aac1=230 aaf6=9 abed=9 fb1e=26 fe20-fe26=230 fe27-fe2d=220",
   "fe2e-fe2f=230 101fd=220 102e0=220 10376-1037a=230 10a0d=220 10a0f=230 10a38=230 10a39=1",
   "10a3a=220 10a3f=9 10ae5=230 10ae6=220 10d24-10d27=230 10d69-10d6d=230 10eab-10eac=230",
   "10efa-10efb=220 10efd-10eff=220 10f46-10f47=220 10f48-10f4a=230 10f4b=220 10f4c=230",
   "10f4d-10f50=220 10f82=230 10f83=220 10f84=230 10f85=220 11046=9 11070=9 1107f=9 110b9=9",
   "110ba=7 11100-11102=230 11133-11134=9 11173=7 111c0=9 111ca=7 11235=9 11236=7 112e9=7",
   "112ea=9 1133b-1133c=7 1134d=9 11366-11374=230 113ce-113d0=9 11442=9 11446=7 1145e=230",
   "114c2=9 114c3=7 115bf=9 115c0=7 1163f=9 116b6=9 116b7=7 1172b=9 11839=9 1183a=7",
   "1193d-1193e=9 11943=7 119e0=9 11a34=9 11a47=9 11a99=9 11c3f=9 11d42=7 11d44-11d45=9",
   "11d97=9 11f41-11f42=9 1612f=9 16af0-16af4=1 16b30-16b36=230 16ff0-16ff1=6 1bc9e=1",
   "1d165-1d166=216 1d167-1d169=1 1d16d=226 1d16e-1d172=216 1d17b-1d182=220 1d185-1d189=230",
   "1d18a-1d18b=220 1d1aa-1d1ad=230 1d242-1d244=230 1e000-1e08f=230 1e130-1e136=230 1e2ae=230",
   "1e2ec-1e2ef=230 1e4ec-1e4ed=232 1e4ee=220 1e4ef=230 1e5ee=230 1e5ef=220 1e6e3=230",
   "1e6e6=230 1e6ee-1e6ef=230 1e6f5=230 1e8d0-1e8d6=220 1e944-1e949=230 1e94a=7"]

/-- The characters that stand for a letter with marks, and what they stand for. -/
def composites : CharMap := .ofLines
  ["e0>61.300 e1>61.301 e2>61.302 e3>61.303 e4>61.308 e5>61.30a e7>63.327 e8>65.300 e9>65.301",
   "ea>65.302 eb>65.308 ec>69.300 ed>69.301 ee>69.302 ef>69.308 f1>6e.303 f2>6f.300 f3>6f.301",
   "f4>6f.302 f5>6f.303 f6>6f.308 f9>75.300 fa>75.301 fb>75.302 fc>75.308 fd>79.301 ff>79.308",
   "101>61.304 103>61.306 105>61.328 107>63.301 109>63.302 10b>63.307 10d>63.30c 10f>64.30c",
   "113>65.304 115>65.306 117>65.307 119>65.328 11b>65.30c 11d>67.302 11f>67.306 121>67.307",
   "123>67.327 125>68.302 129>69.303 12b>69.304 12d>69.306 12f>69.328 135>6a.302 137>6b.327",
   "13a>6c.301 13c>6c.327 13e>6c.30c 144>6e.301 146>6e.327 148>6e.30c 14d>6f.304 14f>6f.306",
   "151>6f.30b 155>72.301 157>72.327 159>72.30c 15b>73.301 15d>73.302 15f>73.327 161>73.30c",
   "163>74.327 165>74.30c 169>75.303 16b>75.304 16d>75.306 16f>75.30a 171>75.30b 173>75.328",
   "175>77.302 177>79.302 17a>7a.301 17c>7a.307 17e>7a.30c 1a1>6f.31b 1b0>75.31b 1ce>61.30c",
   "1d0>69.30c 1d2>6f.30c 1d4>75.30c 1d6>75.308.304 1d8>75.308.301 1da>75.308.30c",
   "1dc>75.308.300 1df>61.308.304 1e1>61.307.304 1e3>e6.304 1e7>67.30c 1e9>6b.30c 1eb>6f.328",
   "1ed>6f.328.304 1ef>292.30c 1f0>6a.30c 1f5>67.301 1f9>6e.300 1fb>61.30a.301 1fd>e6.301",
   "1ff>f8.301 201>61.30f 203>61.311 205>65.30f 207>65.311 209>69.30f 20b>69.311 20d>6f.30f",
   "20f>6f.311 211>72.30f 213>72.311 215>75.30f 217>75.311 219>73.326 21b>74.326 21f>68.30c",
   "227>61.307 229>65.327 22b>6f.308.304 22d>6f.303.304 22f>6f.307 231>6f.307.304 233>79.304",
   "390>3b9.308.301 3ac>3b1.301 3ad>3b5.301 3ae>3b7.301 3af>3b9.301 3b0>3c5.308.301",
   "3ca>3b9.308 3cb>3c5.308 3cc>3bf.301 3cd>3c5.301 3ce>3c9.301 439>438.306 450>435.300",
   "451>435.308 453>433.301 457>456.308 45c>43a.301 45d>438.300 45e>443.306 477>475.30f",
   "4c2>436.306 4d1>430.306 4d3>430.308 4d7>435.306 4db>4d9.308 4dd>436.308 4df>437.308",
   "4e3>438.304 4e5>438.308 4e7>43e.308 4eb>4e9.308 4ed>44d.308 4ef>443.304 4f1>443.308",
   "4f3>443.30b 4f5>447.308 4f9>44b.308 622>627.653 623>627.654 624>648.654 625>627.655",
   "626>64a.654 6c0>6d5.654 6c2>6c1.654 6d3>6d2.654 929>928.93c 931>930.93c 934>933.93c",
   "9cb>9c7.9be 9cc>9c7.9d7 b48>b47.b56 b4b>b47.b3e b4c>b47.b57 b94>b92.bd7 bca>bc6.bbe",
   "bcb>bc7.bbe bcc>bc6.bd7 c48>c46.c56 cc0>cbf.cd5 cc7>cc6.cd5 cc8>cc6.cd6 cca>cc6.cc2",
   "ccb>cc6.cc2.cd5 d4a>d46.d3e d4b>d47.d3e d4c>d46.d57 dda>dd9.dca ddc>dd9.dcf",
   "ddd>dd9.dcf.dca dde>dd9.ddf 1026>1025.102e 1b06>1b05.1b35 1b08>1b07.1b35 1b0a>1b09.1b35",
   "1b0c>1b0b.1b35 1b0e>1b0d.1b35 1b12>1b11.1b35 1b3b>1b3a.1b35 1b3d>1b3c.1b35 1b40>1b3e.1b35",
   "1b41>1b3f.1b35 1b43>1b42.1b35 1e01>61.325 1e03>62.307 1e05>62.323 1e07>62.331",
   "1e09>63.327.301 1e0b>64.307 1e0d>64.323 1e0f>64.331 1e11>64.327 1e13>64.32d",
   "1e15>65.304.300 1e17>65.304.301 1e19>65.32d 1e1b>65.330 1e1d>65.327.306 1e1f>66.307",
   "1e21>67.304 1e23>68.307 1e25>68.323 1e27>68.308 1e29>68.327 1e2b>68.32e 1e2d>69.330",
   "1e2f>69.308.301 1e31>6b.301 1e33>6b.323 1e35>6b.331 1e37>6c.323 1e39>6c.323.304",
   "1e3b>6c.331 1e3d>6c.32d 1e3f>6d.301 1e41>6d.307 1e43>6d.323 1e45>6e.307 1e47>6e.323",
   "1e49>6e.331 1e4b>6e.32d 1e4d>6f.303.301 1e4f>6f.303.308 1e51>6f.304.300 1e53>6f.304.301",
   "1e55>70.301 1e57>70.307 1e59>72.307 1e5b>72.323 1e5d>72.323.304 1e5f>72.331 1e61>73.307",
   "1e63>73.323 1e65>73.301.307 1e67>73.30c.307 1e69>73.323.307 1e6b>74.307 1e6d>74.323",
   "1e6f>74.331 1e71>74.32d 1e73>75.324 1e75>75.330 1e77>75.32d 1e79>75.303.301",
   "1e7b>75.304.308 1e7d>76.303 1e7f>76.323 1e81>77.300 1e83>77.301 1e85>77.308 1e87>77.307",
   "1e89>77.323 1e8b>78.307 1e8d>78.308 1e8f>79.307 1e91>7a.302 1e93>7a.323 1e95>7a.331",
   "1e96>68.331 1e97>74.308 1e98>77.30a 1e99>79.30a 1ea1>61.323 1ea3>61.309 1ea5>61.302.301",
   "1ea7>61.302.300 1ea9>61.302.309 1eab>61.302.303 1ead>61.323.302 1eaf>61.306.301",
   "1eb1>61.306.300 1eb3>61.306.309 1eb5>61.306.303 1eb7>61.323.306 1eb9>65.323 1ebb>65.309",
   "1ebd>65.303 1ebf>65.302.301 1ec1>65.302.300 1ec3>65.302.309 1ec5>65.302.303",
   "1ec7>65.323.302 1ec9>69.309 1ecb>69.323 1ecd>6f.323 1ecf>6f.309 1ed1>6f.302.301",
   "1ed3>6f.302.300 1ed5>6f.302.309 1ed7>6f.302.303 1ed9>6f.323.302 1edb>6f.31b.301",
   "1edd>6f.31b.300 1edf>6f.31b.309 1ee1>6f.31b.303 1ee3>6f.31b.323 1ee5>75.323 1ee7>75.309",
   "1ee9>75.31b.301 1eeb>75.31b.300 1eed>75.31b.309 1eef>75.31b.303 1ef1>75.31b.323",
   "1ef3>79.300 1ef5>79.323 1ef7>79.309 1ef9>79.303 1f00>3b1.313 1f01>3b1.314 1f02>3b1.313.300",
   "1f03>3b1.314.300 1f04>3b1.313.301 1f05>3b1.314.301 1f06>3b1.313.342 1f07>3b1.314.342",
   "1f10>3b5.313 1f11>3b5.314 1f12>3b5.313.300 1f13>3b5.314.300 1f14>3b5.313.301",
   "1f15>3b5.314.301 1f20>3b7.313 1f21>3b7.314 1f22>3b7.313.300 1f23>3b7.314.300",
   "1f24>3b7.313.301 1f25>3b7.314.301 1f26>3b7.313.342 1f27>3b7.314.342 1f30>3b9.313",
   "1f31>3b9.314 1f32>3b9.313.300 1f33>3b9.314.300 1f34>3b9.313.301 1f35>3b9.314.301",
   "1f36>3b9.313.342 1f37>3b9.314.342 1f40>3bf.313 1f41>3bf.314 1f42>3bf.313.300",
   "1f43>3bf.314.300 1f44>3bf.313.301 1f45>3bf.314.301 1f50>3c5.313 1f51>3c5.314",
   "1f52>3c5.313.300 1f53>3c5.314.300 1f54>3c5.313.301 1f55>3c5.314.301 1f56>3c5.313.342",
   "1f57>3c5.314.342 1f60>3c9.313 1f61>3c9.314 1f62>3c9.313.300 1f63>3c9.314.300",
   "1f64>3c9.313.301 1f65>3c9.314.301 1f66>3c9.313.342 1f67>3c9.314.342 1f70>3b1.300",
   "1f72>3b5.300 1f74>3b7.300 1f76>3b9.300 1f78>3bf.300 1f7a>3c5.300 1f7c>3c9.300 1fb0>3b1.306",
   "1fb1>3b1.304 1fb6>3b1.342 1fc6>3b7.342 1fd0>3b9.306 1fd1>3b9.304 1fd2>3b9.308.300",
   "1fd6>3b9.342 1fd7>3b9.308.342 1fe0>3c5.306 1fe1>3c5.304 1fe2>3c5.308.300 1fe4>3c1.313",
   "1fe5>3c1.314 1fe6>3c5.342 1fe7>3c5.308.342 1ff6>3c9.342 219a>2190.338 219b>2192.338",
   "21ae>2194.338 21cd>21d0.338 21ce>21d4.338 21cf>21d2.338 2204>2203.338 2209>2208.338",
   "220c>220b.338 2224>2223.338 2226>2225.338 2241>223c.338 2244>2243.338 2247>2245.338",
   "2249>2248.338 2260>3d.338 2262>2261.338 226d>224d.338 226e>3c.338 226f>3e.338",
   "2270>2264.338 2271>2265.338 2274>2272.338 2275>2273.338 2278>2276.338 2279>2277.338",
   "2280>227a.338 2281>227b.338 2284>2282.338 2285>2283.338 2288>2286.338 2289>2287.338",
   "22ac>22a2.338 22ad>22a8.338 22ae>22a9.338 22af>22ab.338 22e0>227c.338 22e1>227d.338",
   "22e2>2291.338 22e3>2292.338 22ea>22b2.338 22eb>22b3.338 22ec>22b4.338 22ed>22b5.338",
   "304c>304b.3099 304e>304d.3099 3050>304f.3099 3052>3051.3099 3054>3053.3099 3056>3055.3099",
   "3058>3057.3099 305a>3059.3099 305c>305b.3099 305e>305d.3099 3060>305f.3099 3062>3061.3099",
   "3065>3064.3099 3067>3066.3099 3069>3068.3099 3070>306f.3099 3071>306f.309a 3073>3072.3099",
   "3074>3072.309a 3076>3075.3099 3077>3075.309a 3079>3078.3099 307a>3078.309a 307c>307b.3099",
   "307d>307b.309a 3094>3046.3099 309e>309d.3099 30ac>30ab.3099 30ae>30ad.3099 30b0>30af.3099",
   "30b2>30b1.3099 30b4>30b3.3099 30b6>30b5.3099 30b8>30b7.3099 30ba>30b9.3099 30bc>30bb.3099",
   "30be>30bd.3099 30c0>30bf.3099 30c2>30c1.3099 30c5>30c4.3099 30c7>30c6.3099 30c9>30c8.3099",
   "30d0>30cf.3099 30d1>30cf.309a 30d3>30d2.3099 30d4>30d2.309a 30d6>30d5.3099 30d7>30d5.309a",
   "30d9>30d8.3099 30da>30d8.309a 30dc>30db.3099 30dd>30db.309a 30f4>30a6.3099 30f7>30ef.3099",
   "30f8>30f0.3099 30f9>30f1.3099 30fa>30f2.3099 30fe>30fd.3099 105c9>105d2.307",
   "105e4>105da.307 1109a>11099.110ba 1109c>1109b.110ba 110ab>110a5.110ba 1112e>11131.11127",
   "1112f>11132.11127 1134b>11347.1133e 1134c>11347.11357 11383>11382.113c9 11385>11384.113bb",
   "1138e>1138b.113c2 11391>11390.113c9 113c5>113c2.113c2 113c7>113c2.113b8 113c8>113c2.113c9",
   "114bb>114b9.114ba 114bc>114b9.114b0 114be>114b9.114bd 115ba>115b8.115af 115bb>115b9.115af",
   "11938>11935.11930 16121>1611e.1611e 16122>1611e.16129 16123>1611e.1611f 16124>16129.1611f",
   "16125>1611e.16120 16126>1611e.1611e.1611f 16127>1611e.16129.1611f 16128>1611e.1611e.16120",
   "16d68>16d67.16d67 16d69>16d63.16d67 16d6a>16d63.16d67.16d67"]

/-- The class of a character; zero if it does not combine. -/
def combiningClass (c : Char) : Nat :=
  if c.toNat < 0x300 then 0
  else ((combiningClasses.find? c).map Text.decimalValue).getD 0

/-! ## Syllables of Korean -/

/-- The letters of a syllable. -/
def syllableLetters? (c : Char) : Option Text :=
  if 0xAC00 ≤ c.toNat && c.toNat ≤ 0xD7A3 then
    let n := c.toNat - 0xAC00
    let first := [Char.ofNat (0x1100 + n / 588), Char.ofNat (0x1161 + n % 588 / 28)]
    some (if n % 28 == 0 then first else first ++ [Char.ofNat (0x11A7 + n % 28)])
  else none

/-- The syllable of a consonant and a vowel, or of a syllable and a last consonant. -/
def syllable? (a b : Char) : Option Char :=
  if 0x1100 ≤ a.toNat && a.toNat ≤ 0x1112 && 0x1161 ≤ b.toNat && b.toNat ≤ 0x1175 then
    some (.ofNat (0xAC00 + ((a.toNat - 0x1100) * 21 + (b.toNat - 0x1161)) * 28))
  else if 0xAC00 ≤ a.toNat && a.toNat ≤ 0xD7A3 && (a.toNat - 0xAC00) % 28 == 0 &&
      0x11A8 ≤ b.toNat && b.toNat ≤ 0x11C2 then
    some (.ofNat (a.toNat + (b.toNat - 0x11A7)))
  else none

namespace Text

/-! ## Composition -/

/-- The characters that a character stands for. -/
def charParts (c : Char) : Text :=
  if c.toNat < 0x80 then [c]
  else ((syllableLetters? c) <|> (composites.find? c)).getD [c]

/-- The character that stands for two. -/
def joined? (a b : Char) : Option Char :=
  (syllable? a b) <|> (composites.source? (charParts a ++ [b]))

/-- Put a character after others, given last first, but before the marks of higher classes that
stand at their end. -/
def placeMark (c : Char) : Text → Text
  | [] => [c]
  | d :: rest =>
    if combiningClass c != 0 && combiningClass c < combiningClass d then d :: placeMark c rest
    else c :: d :: rest

/-- Text with each run of marks in the order of their classes. -/
def inMarkOrder (t : Text) : Text :=
  (t.foldl (fun placed c => placeMark c placed) []).reverse

/-- Join what follows a character with it. `marks` stand between them, and a mark only passes marks
of lower classes. -/
def joinAfter (base : Char) (marks : Text) : Text → Text
  | [] => base :: marks
  | c :: rest =>
    let isFree := marks.getLast?.all fun d => combiningClass d < combiningClass c
    match if isFree then joined? base c else none with
    | some whole => joinAfter whole marks rest
    | none =>
      if combiningClass c == 0 then base :: marks ++ joinAfter c [] rest
      else joinAfter base (marks ++ [c]) rest

/-- Text with its letters and marks joined as far as there are characters for them. -/
def composed (t : Text) : Text :=
  let apart := inMarkOrder (t.flatMap charParts)
  let isMark (c : Char) : Bool := combiningClass c != 0
  match apart.dropWhile isMark with
  | [] => apart
  | base :: rest => apart.takeWhile isMark ++ joinAfter base [] rest

end Text

end RoutineAtlas
