import HttpCourier.Text.Ranges

/-!
# Charsets of one byte per character

A page is written as runs: the first byte of a run, an equals sign and the code point it stands for;
the bytes after it stand for the code points after that one, up to the next run. A run without a
code point has no characters.
-/

namespace HttpCourier.Charset

open Text

/-- The pages by name. -/
def pages : List (String × String) :=
  [
    ("cp037",
      ("0=0 4=9c 5=9 6=86 7=7f 8=97 9=8d b=b 14=9d 15=85 16=8 17=87 18=18 1a=92 1b=8f 1c=1c " ++
        "20=80 25=a 26=17 27=1b 28=88 2d=5 30=90 32=16 33=93 37=4 38=98 3c=14 3e=9e 3f=1a 40=20 " ++
        "41=a0 42=e2 43=e4 44=e0 46=e3 47=e5 48=e7 49=f1 4a=a2 4b=2e 4c=3c 4d=28 4e=2b 4f=7c " ++
        "50=26 51=e9 54=e8 55=ed 58=ec 59=df 5a=21 5b=24 5c=2a 5d=29 5e=3b 5f=ac 60=2d 61=2f " ++
        "62=c2 63=c4 64=c0 66=c3 67=c5 68=c7 69=d1 6a=a6 6b=2c 6c=25 6d=5f 6e=3e 70=f8 71=c9 " ++
        "74=c8 75=cd 78=cc 79=60 7a=3a 7b=23 7c=40 7d=27 7e=3d 7f=22 80=d8 81=61 8a=ab 8b=bb " ++
        "8c=f0 8d=fd 8f=b1 90=b0 91=6a 9a=aa 9b=ba 9c=e6 9d=b8 9e=c6 9f=a4 a0=b5 a1=7e a2=73 " ++
        "aa=a1 ab=bf ac=d0 ad=dd af=ae b0=5e b1=a3 b2=a5 b3=b7 b4=a9 b5=a7 b6=b6 b7=bc ba=5b " ++
        "bb=5d bc=af bd=a8 be=b4 bf=d7 c0=7b c1=41 ca=ad cb=f4 cc=f6 cd=f2 cf=f5 d0=7d d1=4a " ++
        "da=b9 db=fb dd=f9 df=ff e0=5c e1=f7 e2=53 ea=b2 eb=d4 ec=d6 ed=d2 ef=d5 f0=30 fa=b3 " ++
        "fb=db fd=d9 ff=9f")),
    ("cp1006",
      ("0=0 a1=6f0 ab=60c ac=61b ad=ad ae=61f af=fe81 b0=fe8d b2=fe8e b4=fe91 b5=fb56 b6=fb58 " ++
        "b7=fe93 b8=fe95 b9=fe97 ba=fb66 bb=fb68 bc=fe99 bd=fe9b be=fe9d bf=fe9f c0=fb7a c1=fb7c " ++
        "c2=fea1 c3=fea3 c4=fea5 c5=fea7 c6=fea9 c7=fb84 c8=feab c9=fead ca=fb8c cb=feaf cc=fb8a " ++
        "cd=feb1 ce=feb3 cf=feb5 d0=feb7 d1=feb9 d2=febb d3=febd d4=febf d5=fec1 d6=fec5 d7=fec9 " ++
        "e0=fed3 e1=fed5 e2=fed7 e3=fed9 e4=fedb e5=fb92 e6=fb94 e7=fedd e8=fedf eb=fee3 ec=fb9e " ++
        "ed=fee5 ee=fee7 ef=fe85 f0=feed f1=fba6 f2=fba8 f5=fe80 f6=fe89 f9=fef1 fc=fbb0 fd=fbae " ++
        "fe=fe7c")),
    ("cp1026",
      ("0=0 4=9c 5=9 6=86 7=7f 8=97 9=8d b=b 14=9d 15=85 16=8 17=87 18=18 1a=92 1b=8f 1c=1c " ++
        "20=80 25=a 26=17 27=1b 28=88 2d=5 30=90 32=16 33=93 37=4 38=98 3c=14 3e=9e 3f=1a 40=20 " ++
        "41=a0 42=e2 43=e4 44=e0 46=e3 47=e5 48=7b 49=f1 4a=c7 4b=2e 4c=3c 4d=28 4e=2b 4f=21 " ++
        "50=26 51=e9 54=e8 55=ed 58=ec 59=df 5a=11e 5b=130 5c=2a 5d=29 5e=3b 5f=5e 60=2d 61=2f " ++
        "62=c2 63=c4 64=c0 66=c3 67=c5 68=5b 69=d1 6a=15f 6b=2c 6c=25 6d=5f 6e=3e 70=f8 71=c9 " ++
        "74=c8 75=cd 78=cc 79=131 7a=3a 7b=d6 7c=15e 7d=27 7e=3d 7f=dc 80=d8 81=61 8a=ab 8b=bb " ++
        "8c=7d 8d=60 8e=a6 8f=b1 90=b0 91=6a 9a=aa 9b=ba 9c=e6 9d=b8 9e=c6 9f=a4 a0=b5 a1=f6 " ++
        "a2=73 aa=a1 ab=bf ac=5d ad=24 ae=40 af=ae b0=a2 b2=a5 b3=b7 b4=a9 b5=a7 b6=b6 b7=bc " ++
        "ba=ac bb=7c bc=af bd=a8 be=b4 bf=d7 c0=e7 c1=41 ca=ad cb=f4 cc=7e cd=f2 cf=f5 d0=11f " ++
        "d1=4a da=b9 db=fb dc=5c dd=f9 df=ff e0=fc e1=f7 e2=53 ea=b2 eb=d4 ec=23 ed=d2 ef=d5 " ++
        "f0=30 fa=b3 fb=db fc=22 fd=d9 ff=9f")),
    ("cp1125",
      ("0=0 80=410 b0=2591 b3=2502 b4=2524 b5=2561 b7=2556 b8=2555 b9=2563 ba=2551 bb=2557 " ++
        "bc=255d bd=255c be=255b bf=2510 c0=2514 c1=2534 c2=252c c3=251c c4=2500 c5=253c c6=255e " ++
        "c8=255a c9=2554 ca=2569 cb=2566 cc=2560 cd=2550 ce=256c cf=2567 d1=2564 d3=2559 d4=2558 " ++
        "d5=2552 d7=256b d8=256a d9=2518 da=250c db=2588 dc=2584 dd=258c de=2590 df=2580 e0=440 " ++
        "f0=401 f1=451 f2=490 f4=404 f5=454 f6=406 f7=456 f8=407 f9=457 fa=b7 fb=221a fc=2116 " ++
        "fd=a4 fe=25a0 ff=a0")),
    ("cp1140",
      ("0=0 4=9c 5=9 6=86 7=7f 8=97 9=8d b=b 14=9d 15=85 16=8 17=87 18=18 1a=92 1b=8f 1c=1c " ++
        "20=80 25=a 26=17 27=1b 28=88 2d=5 30=90 32=16 33=93 37=4 38=98 3c=14 3e=9e 3f=1a 40=20 " ++
        "41=a0 42=e2 43=e4 44=e0 46=e3 47=e5 48=e7 49=f1 4a=a2 4b=2e 4c=3c 4d=28 4e=2b 4f=7c " ++
        "50=26 51=e9 54=e8 55=ed 58=ec 59=df 5a=21 5b=24 5c=2a 5d=29 5e=3b 5f=ac 60=2d 61=2f " ++
        "62=c2 63=c4 64=c0 66=c3 67=c5 68=c7 69=d1 6a=a6 6b=2c 6c=25 6d=5f 6e=3e 70=f8 71=c9 " ++
        "74=c8 75=cd 78=cc 79=60 7a=3a 7b=23 7c=40 7d=27 7e=3d 7f=22 80=d8 81=61 8a=ab 8b=bb " ++
        "8c=f0 8d=fd 8f=b1 90=b0 91=6a 9a=aa 9b=ba 9c=e6 9d=b8 9e=c6 9f=20ac a0=b5 a1=7e a2=73 " ++
        "aa=a1 ab=bf ac=d0 ad=dd af=ae b0=5e b1=a3 b2=a5 b3=b7 b4=a9 b5=a7 b6=b6 b7=bc ba=5b " ++
        "bb=5d bc=af bd=a8 be=b4 bf=d7 c0=7b c1=41 ca=ad cb=f4 cc=f6 cd=f2 cf=f5 d0=7d d1=4a " ++
        "da=b9 db=fb dd=f9 df=ff e0=5c e1=f7 e2=53 ea=b2 eb=d4 ec=d6 ed=d2 ef=d5 f0=30 fa=b3 " ++
        "fb=db fd=d9 ff=9f")),
    ("cp1250",
      ("0=0 80=20ac 81= 82=201a 83= 84=201e 85=2026 86=2020 88= 89=2030 8a=160 8b=2039 8c=15a " ++
        "8d=164 8e=17d 8f=179 90= 91=2018 93=201c 95=2022 96=2013 98= 99=2122 9a=161 9b=203a " ++
        "9c=15b 9d=165 9e=17e 9f=17a a0=a0 a1=2c7 a2=2d8 a3=141 a4=a4 a5=104 a6=a6 aa=15e ab=ab " ++
        "af=17b b0=b0 b2=2db b3=142 b4=b4 b9=105 ba=15f bb=bb bc=13d bd=2dd be=13e bf=17c c0=154 " ++
        "c1=c1 c3=102 c4=c4 c5=139 c6=106 c7=c7 c8=10c c9=c9 ca=118 cb=cb cc=11a cd=cd cf=10e " ++
        "d0=110 d1=143 d2=147 d3=d3 d5=150 d6=d6 d8=158 d9=16e da=da db=170 dc=dc de=162 df=df " ++
        "e0=155 e1=e1 e3=103 e4=e4 e5=13a e6=107 e7=e7 e8=10d e9=e9 ea=119 eb=eb ec=11b ed=ed " ++
        "ef=10f f0=111 f1=144 f2=148 f3=f3 f5=151 f6=f6 f8=159 f9=16f fa=fa fb=171 fc=fc fe=163 " ++
        "ff=2d9")),
    ("cp1251",
      ("0=0 80=402 82=201a 83=453 84=201e 85=2026 86=2020 88=20ac 89=2030 8a=409 8b=2039 8c=40a " ++
        "8d=40c 8e=40b 8f=40f 90=452 91=2018 93=201c 95=2022 96=2013 98= 99=2122 9a=459 9b=203a " ++
        "9c=45a 9d=45c 9e=45b 9f=45f a0=a0 a1=40e a2=45e a3=408 a4=a4 a5=490 a6=a6 a8=401 a9=a9 " ++
        "aa=404 ab=ab af=407 b0=b0 b2=406 b3=456 b4=491 b5=b5 b8=451 b9=2116 ba=454 bb=bb bc=458 " ++
        "bd=405 be=455 bf=457 c0=410")),
    ("cp1252",
      ("0=0 80=20ac 81= 82=201a 83=192 84=201e 85=2026 86=2020 88=2c6 89=2030 8a=160 8b=2039 " ++
        "8c=152 8d= 8e=17d 8f= 91=2018 93=201c 95=2022 96=2013 98=2dc 99=2122 9a=161 9b=203a " ++
        "9c=153 9d= 9e=17e 9f=178 a0=a0")),
    ("cp1253",
      ("0=0 80=20ac 81= 82=201a 83=192 84=201e 85=2026 86=2020 88= 89=2030 8a= 8b=2039 8c= " ++
        "91=2018 93=201c 95=2022 96=2013 98= 99=2122 9a= 9b=203a 9c= a0=a0 a1=385 a3=a3 aa= ab=ab " ++
        "af=2015 b0=b0 b4=384 b5=b5 b8=388 bb=bb bc=38c bd=bd be=38e d2= d3=3a3 ff=")),
    ("cp1254",
      ("0=0 80=20ac 81= 82=201a 83=192 84=201e 85=2026 86=2020 88=2c6 89=2030 8a=160 8b=2039 " ++
        "8c=152 8d= 91=2018 93=201c 95=2022 96=2013 98=2dc 99=2122 9a=161 9b=203a 9c=153 9d= " ++
        "9f=178 a0=a0 d0=11e d1=d1 dd=130 de=15e df=df f0=11f f1=f1 fd=131 fe=15f ff=ff")),
    ("cp1255",
      ("0=0 80=20ac 81= 82=201a 83=192 84=201e 85=2026 86=2020 88=2c6 89=2030 8a= 8b=2039 8c= " ++
        "91=2018 93=201c 95=2022 96=2013 98=2dc 99=2122 9a= 9b=203a 9c= a0=a0 a4=20aa a5=a5 aa=d7 " ++
        "ab=ab ba=f7 bb=bb c0=5b0 ca= cb=5bb d4=5f0 d9= e0=5d0 fb= fd=200e ff=")),
    ("cp1256",
      ("0=0 80=20ac 81=67e 82=201a 83=192 84=201e 85=2026 86=2020 88=2c6 89=2030 8a=679 8b=2039 " ++
        "8c=152 8d=686 8e=698 8f=688 90=6af 91=2018 93=201c 95=2022 96=2013 98=6a9 99=2122 9a=691 " ++
        "9b=203a 9c=153 9d=200c 9f=6ba a0=a0 a1=60c a2=a2 aa=6be ab=ab ba=61b bb=bb bf=61f c0=6c1 " ++
        "c1=621 d7=d7 d8=637 dc=640 e0=e0 e1=644 e2=e2 e3=645 e7=e7 ec=649 ee=ee f0=64b f4=f4 " ++
        "f5=64f f7=f7 f8=651 f9=f9 fa=652 fb=fb fd=200e ff=6d2")),
    ("cp1257",
      ("0=0 80=20ac 81= 82=201a 83= 84=201e 85=2026 86=2020 88= 89=2030 8a= 8b=2039 8c= 8d=a8 " ++
        "8e=2c7 8f=b8 90= 91=2018 93=201c 95=2022 96=2013 98= 99=2122 9a= 9b=203a 9c= 9d=af " ++
        "9e=2db 9f= a0=a0 a1= a2=a2 a5= a6=a6 a8=d8 a9=a9 aa=156 ab=ab af=c6 b0=b0 b8=f8 b9=b9 " ++
        "ba=157 bb=bb bf=e6 c0=104 c1=12e c2=100 c3=106 c4=c4 c6=118 c7=112 c8=10c c9=c9 ca=179 " ++
        "cb=116 cc=122 cd=136 ce=12a cf=13b d0=160 d1=143 d2=145 d3=d3 d4=14c d5=d5 d8=172 d9=141 " ++
        "da=15a db=16a dc=dc dd=17b de=17d df=df e0=105 e1=12f e2=101 e3=107 e4=e4 e6=119 e7=113 " ++
        "e8=10d e9=e9 ea=17a eb=117 ec=123 ed=137 ee=12b ef=13c f0=161 f1=144 f2=146 f3=f3 f4=14d " ++
        "f5=f5 f8=173 f9=142 fa=15b fb=16b fc=fc fd=17c fe=17e ff=2d9")),
    ("cp1258",
      ("0=0 80=20ac 81= 82=201a 83=192 84=201e 85=2026 86=2020 88=2c6 89=2030 8a= 8b=2039 8c=152 " ++
        "8d= 91=2018 93=201c 95=2022 96=2013 98=2dc 99=2122 9a= 9b=203a 9c=153 9d= 9f=178 a0=a0 " ++
        "c3=102 c4=c4 cc=300 cd=cd d0=110 d1=d1 d2=309 d3=d3 d5=1a0 d6=d6 dd=1af de=303 df=df " ++
        "e3=103 e4=e4 ec=301 ed=ed f0=111 f1=f1 f2=323 f3=f3 f5=1a1 f6=f6 fd=1b0 fe=20ab ff=ff")),
    ("cp273",
      ("0=0 4=9c 5=9 6=86 7=7f 8=97 9=8d b=b 14=9d 15=85 16=8 17=87 18=18 1a=92 1b=8f 1c=1c " ++
        "20=80 25=a 26=17 27=1b 28=88 2d=5 30=90 32=16 33=93 37=4 38=98 3c=14 3e=9e 3f=1a 40=20 " ++
        "41=a0 42=e2 43=7b 44=e0 46=e3 47=e5 48=e7 49=f1 4a=c4 4b=2e 4c=3c 4d=28 4e=2b 4f=21 " ++
        "50=26 51=e9 54=e8 55=ed 58=ec 59=7e 5a=dc 5b=24 5c=2a 5d=29 5e=3b 5f=5e 60=2d 61=2f " ++
        "62=c2 63=5b 64=c0 66=c3 67=c5 68=c7 69=d1 6a=f6 6b=2c 6c=25 6d=5f 6e=3e 70=f8 71=c9 " ++
        "74=c8 75=cd 78=cc 79=60 7a=3a 7b=23 7c=a7 7d=27 7e=3d 7f=22 80=d8 81=61 8a=ab 8b=bb " ++
        "8c=f0 8d=fd 8f=b1 90=b0 91=6a 9a=aa 9b=ba 9c=e6 9d=b8 9e=c6 9f=a4 a0=b5 a1=df a2=73 " ++
        "aa=a1 ab=bf ac=d0 ad=dd af=ae b0=a2 b2=a5 b3=b7 b4=a9 b5=40 b6=b6 b7=bc ba=ac bb=7c " ++
        "bc=203e bd=a8 be=b4 bf=d7 c0=e4 c1=41 ca=ad cb=f4 cc=a6 cd=f2 cf=f5 d0=fc d1=4a da=b9 " ++
        "db=fb dc=7d dd=f9 df=ff e0=d6 e1=f7 e2=53 ea=b2 eb=d4 ec=5c ed=d2 ef=d5 f0=30 fa=b3 " ++
        "fb=db fc=5d fd=d9 ff=9f")),
    ("cp424",
      ("0=0 4=9c 5=9 6=86 7=7f 8=97 9=8d b=b 14=9d 15=85 16=8 17=87 18=18 1a=92 1b=8f 1c=1c " ++
        "20=80 25=a 26=17 27=1b 28=88 2d=5 30=90 32=16 33=93 37=4 38=98 3c=14 3e=9e 3f=1a 40=20 " ++
        "41=5d0 4a=a2 4b=2e 4c=3c 4d=28 4e=2b 4f=7c 50=26 51=5d9 5a=21 5b=24 5c=2a 5d=29 5e=3b " ++
        "5f=ac 60=2d 61=2f 62=5e2 6a=a6 6b=2c 6c=25 6d=5f 6e=3e 70= 71=5ea 72= 74=a0 75= 78=2017 " ++
        "79=60 7a=3a 7b=23 7c=40 7d=27 7e=3d 7f=22 80= 81=61 8a=ab 8b=bb 8c= 8f=b1 90=b0 91=6a " ++
        "9a= 9d=b8 9e= 9f=a4 a0=b5 a1=7e a2=73 aa= af=ae b0=5e b1=a3 b2=a5 b3=b7 b4=a9 b5=a7 " ++
        "b6=b6 b7=bc ba=5b bb=5d bc=af bd=a8 be=b4 bf=d7 c0=7b c1=41 ca=ad cb= d0=7d d1=4a da=b9 " ++
        "db= e0=5c e1=f7 e2=53 ea=b2 eb= f0=30 fa=b3 fb= ff=9f")),
    ("cp437",
      ("0=0 80=c7 81=fc 82=e9 83=e2 84=e4 85=e0 86=e5 87=e7 88=ea 8a=e8 8b=ef 8c=ee 8d=ec 8e=c4 " ++
        "90=c9 91=e6 92=c6 93=f4 94=f6 95=f2 96=fb 97=f9 98=ff 99=d6 9a=dc 9b=a2 9d=a5 9e=20a7 " ++
        "9f=192 a0=e1 a1=ed a2=f3 a3=fa a4=f1 a5=d1 a6=aa a7=ba a8=bf a9=2310 aa=ac ab=bd ac=bc " ++
        "ad=a1 ae=ab af=bb b0=2591 b3=2502 b4=2524 b5=2561 b7=2556 b8=2555 b9=2563 ba=2551 " ++
        "bb=2557 bc=255d bd=255c be=255b bf=2510 c0=2514 c1=2534 c2=252c c3=251c c4=2500 c5=253c " ++
        "c6=255e c8=255a c9=2554 ca=2569 cb=2566 cc=2560 cd=2550 ce=256c cf=2567 d1=2564 d3=2559 " ++
        "d4=2558 d5=2552 d7=256b d8=256a d9=2518 da=250c db=2588 dc=2584 dd=258c de=2590 df=2580 " ++
        "e0=3b1 e1=df e2=393 e3=3c0 e4=3a3 e5=3c3 e6=b5 e7=3c4 e8=3a6 e9=398 ea=3a9 eb=3b4 " ++
        "ec=221e ed=3c6 ee=3b5 ef=2229 f0=2261 f1=b1 f2=2265 f3=2264 f4=2320 f6=f7 f7=2248 f8=b0 " ++
        "f9=2219 fa=b7 fb=221a fc=207f fd=b2 fe=25a0 ff=a0")),
    ("cp500",
      ("0=0 4=9c 5=9 6=86 7=7f 8=97 9=8d b=b 14=9d 15=85 16=8 17=87 18=18 1a=92 1b=8f 1c=1c " ++
        "20=80 25=a 26=17 27=1b 28=88 2d=5 30=90 32=16 33=93 37=4 38=98 3c=14 3e=9e 3f=1a 40=20 " ++
        "41=a0 42=e2 43=e4 44=e0 46=e3 47=e5 48=e7 49=f1 4a=5b 4b=2e 4c=3c 4d=28 4e=2b 4f=21 " ++
        "50=26 51=e9 54=e8 55=ed 58=ec 59=df 5a=5d 5b=24 5c=2a 5d=29 5e=3b 5f=5e 60=2d 61=2f " ++
        "62=c2 63=c4 64=c0 66=c3 67=c5 68=c7 69=d1 6a=a6 6b=2c 6c=25 6d=5f 6e=3e 70=f8 71=c9 " ++
        "74=c8 75=cd 78=cc 79=60 7a=3a 7b=23 7c=40 7d=27 7e=3d 7f=22 80=d8 81=61 8a=ab 8b=bb " ++
        "8c=f0 8d=fd 8f=b1 90=b0 91=6a 9a=aa 9b=ba 9c=e6 9d=b8 9e=c6 9f=a4 a0=b5 a1=7e a2=73 " ++
        "aa=a1 ab=bf ac=d0 ad=dd af=ae b0=a2 b2=a5 b3=b7 b4=a9 b5=a7 b6=b6 b7=bc ba=ac bb=7c " ++
        "bc=af bd=a8 be=b4 bf=d7 c0=7b c1=41 ca=ad cb=f4 cc=f6 cd=f2 cf=f5 d0=7d d1=4a da=b9 " ++
        "db=fb dd=f9 df=ff e0=5c e1=f7 e2=53 ea=b2 eb=d4 ec=d6 ed=d2 ef=d5 f0=30 fa=b3 fb=db " ++
        "fd=d9 ff=9f")),
    ("cp720",
      ("0=0 82=e9 83=e2 84=84 85=e0 86=86 87=e7 88=ea 8a=e8 8b=ef 8c=ee 8d=8d 91=651 93=f4 94=a4 " ++
        "95=640 96=fb 97=f9 98=621 9c=a3 9d=625 ae=ab af=bb b0=2591 b3=2502 b4=2524 b5=2561 " ++
        "b7=2556 b8=2555 b9=2563 ba=2551 bb=2557 bc=255d bd=255c be=255b bf=2510 c0=2514 c1=2534 " ++
        "c2=252c c3=251c c4=2500 c5=253c c6=255e c8=255a c9=2554 ca=2569 cb=2566 cc=2560 cd=2550 " ++
        "ce=256c cf=2567 d1=2564 d3=2559 d4=2558 d5=2552 d7=256b d8=256a d9=2518 da=250c db=2588 " ++
        "dc=2584 dd=258c de=2590 df=2580 e0=636 e5=641 e6=b5 e7=642 f0=2261 f1=64b f7=2248 f8=b0 " ++
        "f9=2219 fa=b7 fb=221a fc=207f fd=b2 fe=25a0 ff=a0")),
    ("cp737",
      ("0=0 80=391 91=3a3 98=3b1 a9=3c3 aa=3c2 ab=3c4 b0=2591 b3=2502 b4=2524 b5=2561 b7=2556 " ++
        "b8=2555 b9=2563 ba=2551 bb=2557 bc=255d bd=255c be=255b bf=2510 c0=2514 c1=2534 c2=252c " ++
        "c3=251c c4=2500 c5=253c c6=255e c8=255a c9=2554 ca=2569 cb=2566 cc=2560 cd=2550 ce=256c " ++
        "cf=2567 d1=2564 d3=2559 d4=2558 d5=2552 d7=256b d8=256a d9=2518 da=250c db=2588 dc=2584 " ++
        "dd=258c de=2590 df=2580 e0=3c9 e1=3ac e4=3ca e5=3af e6=3cc e8=3cb e9=3ce ea=386 eb=388 " ++
        "ee=38c ef=38e f1=b1 f2=2265 f3=2264 f4=3aa f6=f7 f7=2248 f8=b0 f9=2219 fa=b7 fb=221a " ++
        "fc=207f fd=b2 fe=25a0 ff=a0")),
    ("cp775",
      ("0=0 80=106 81=fc 82=e9 83=101 84=e4 85=123 86=e5 87=107 88=142 89=113 8a=156 8c=12b " ++
        "8d=179 8e=c4 90=c9 91=e6 92=c6 93=14d 94=f6 95=122 96=a2 97=15a 99=d6 9a=dc 9b=f8 9c=a3 " ++
        "9d=d8 9e=d7 9f=a4 a0=100 a1=12a a2=f3 a3=17b a5=17a a6=201d a7=a6 a8=a9 a9=ae aa=ac " ++
        "ab=bd ac=bc ad=141 ae=ab af=bb b0=2591 b3=2502 b4=2524 b5=104 b6=10c b7=118 b8=116 " ++
        "b9=2563 ba=2551 bb=2557 bc=255d bd=12e be=160 bf=2510 c0=2514 c1=2534 c2=252c c3=251c " ++
        "c4=2500 c5=253c c6=172 c7=16a c8=255a c9=2554 ca=2569 cb=2566 cc=2560 cd=2550 ce=256c " ++
        "cf=17d d0=105 d1=10d d2=119 d3=117 d4=12f d5=161 d6=173 d7=16b d8=17e d9=2518 da=250c " ++
        "db=2588 dc=2584 dd=258c de=2590 df=2580 e0=d3 e1=df e2=14c e3=143 e4=f5 e5=d5 e6=b5 " ++
        "e7=144 e8=136 ea=13b ec=146 ed=112 ee=145 ef=2019 f0=ad f1=b1 f2=201c f3=be f4=b6 f5=a7 " ++
        "f6=f7 f7=201e f8=b0 f9=2219 fa=b7 fb=b9 fc=b3 fd=b2 fe=25a0 ff=a0")),
    ("cp850",
      ("0=0 80=c7 81=fc 82=e9 83=e2 84=e4 85=e0 86=e5 87=e7 88=ea 8a=e8 8b=ef 8c=ee 8d=ec 8e=c4 " ++
        "90=c9 91=e6 92=c6 93=f4 94=f6 95=f2 96=fb 97=f9 98=ff 99=d6 9a=dc 9b=f8 9c=a3 9d=d8 " ++
        "9e=d7 9f=192 a0=e1 a1=ed a2=f3 a3=fa a4=f1 a5=d1 a6=aa a7=ba a8=bf a9=ae aa=ac ab=bd " ++
        "ac=bc ad=a1 ae=ab af=bb b0=2591 b3=2502 b4=2524 b5=c1 b7=c0 b8=a9 b9=2563 ba=2551 " ++
        "bb=2557 bc=255d bd=a2 be=a5 bf=2510 c0=2514 c1=2534 c2=252c c3=251c c4=2500 c5=253c " ++
        "c6=e3 c7=c3 c8=255a c9=2554 ca=2569 cb=2566 cc=2560 cd=2550 ce=256c cf=a4 d0=f0 d1=d0 " ++
        "d2=ca d4=c8 d5=131 d6=cd d9=2518 da=250c db=2588 dc=2584 dd=a6 de=cc df=2580 e0=d3 e1=df " ++
        "e2=d4 e3=d2 e4=f5 e5=d5 e6=b5 e7=fe e8=de e9=da eb=d9 ec=fd ed=dd ee=af ef=b4 f0=ad " ++
        "f1=b1 f2=2017 f3=be f4=b6 f5=a7 f6=f7 f7=b8 f8=b0 f9=a8 fa=b7 fb=b9 fc=b3 fd=b2 fe=25a0 " ++
        "ff=a0")),
    ("cp852",
      ("0=0 80=c7 81=fc 82=e9 83=e2 84=e4 85=16f 86=107 87=e7 88=142 89=eb 8a=150 8c=ee 8d=179 " ++
        "8e=c4 8f=106 90=c9 91=139 93=f4 94=f6 95=13d 97=15a 99=d6 9a=dc 9b=164 9d=141 9e=d7 " ++
        "9f=10d a0=e1 a1=ed a2=f3 a3=fa a4=104 a6=17d a8=118 aa=ac ab=17a ac=10c ad=15f ae=ab " ++
        "af=bb b0=2591 b3=2502 b4=2524 b5=c1 b7=11a b8=15e b9=2563 ba=2551 bb=2557 bc=255d bd=17b " ++
        "bf=2510 c0=2514 c1=2534 c2=252c c3=251c c4=2500 c5=253c c6=102 c8=255a c9=2554 ca=2569 " ++
        "cb=2566 cc=2560 cd=2550 ce=256c cf=a4 d0=111 d1=110 d2=10e d3=cb d4=10f d5=147 d6=cd " ++
        "d8=11b d9=2518 da=250c db=2588 dc=2584 dd=162 de=16e df=2580 e0=d3 e1=df e2=d4 e3=143 " ++
        "e5=148 e6=160 e8=154 e9=da ea=155 eb=170 ec=fd ed=dd ee=163 ef=b4 f0=ad f1=2dd f2=2db " ++
        "f3=2c7 f4=2d8 f5=a7 f6=f7 f7=b8 f8=b0 f9=a8 fa=2d9 fb=171 fc=158 fe=25a0 ff=a0")),
    ("cp855",
      ("0=0 80=452 81=402 82=453 83=403 84=451 85=401 86=454 87=404 88=455 89=405 8a=456 8b=406 " ++
        "8c=457 8d=407 8e=458 8f=408 90=459 91=409 92=45a 93=40a 94=45b 95=40b 96=45c 97=40c " ++
        "98=45e 99=40e 9a=45f 9b=40f 9c=44e 9d=42e 9e=44a 9f=42a a0=430 a1=410 a2=431 a3=411 " ++
        "a4=446 a5=426 a6=434 a7=414 a8=435 a9=415 aa=444 ab=424 ac=433 ad=413 ae=ab af=bb " ++
        "b0=2591 b3=2502 b4=2524 b5=445 b6=425 b7=438 b8=418 b9=2563 ba=2551 bb=2557 bc=255d " ++
        "bd=439 be=419 bf=2510 c0=2514 c1=2534 c2=252c c3=251c c4=2500 c5=253c c6=43a c7=41a " ++
        "c8=255a c9=2554 ca=2569 cb=2566 cc=2560 cd=2550 ce=256c cf=a4 d0=43b d1=41b d2=43c " ++
        "d3=41c d4=43d d5=41d d6=43e d7=41e d8=43f d9=2518 da=250c db=2588 dc=2584 dd=41f de=44f " ++
        "df=2580 e0=42f e1=440 e2=420 e3=441 e4=421 e5=442 e6=422 e7=443 e8=423 e9=436 ea=416 " ++
        "eb=432 ec=412 ed=44c ee=42c ef=2116 f0=ad f1=44b f2=42b f3=437 f4=417 f5=448 f6=428 " ++
        "f7=44d f8=42d f9=449 fa=429 fb=447 fc=427 fd=a7 fe=25a0 ff=a0")),
    ("cp856",
      ("0=0 80=5d0 9b= 9c=a3 9d= 9e=d7 9f= a9=ae aa=ac ab=bd ac=bc ad= ae=ab af=bb b0=2591 " ++
        "b3=2502 b4=2524 b5= b8=a9 b9=2563 ba=2551 bb=2557 bc=255d bd=a2 be=a5 bf=2510 c0=2514 " ++
        "c1=2534 c2=252c c3=251c c4=2500 c5=253c c6= c8=255a c9=2554 ca=2569 cb=2566 cc=2560 " ++
        "cd=2550 ce=256c cf=a4 d0= d9=2518 da=250c db=2588 dc=2584 dd=a6 de= df=2580 e0= e6=b5 " ++
        "e7= ee=af ef=b4 f0=ad f1=b1 f2=2017 f3=be f4=b6 f5=a7 f6=f7 f7=b8 f8=b0 f9=a8 fa=b7 " ++
        "fb=b9 fc=b3 fd=b2 fe=25a0 ff=a0")),
    ("cp857",
      ("0=0 80=c7 81=fc 82=e9 83=e2 84=e4 85=e0 86=e5 87=e7 88=ea 8a=e8 8b=ef 8c=ee 8d=131 8e=c4 " ++
        "90=c9 91=e6 92=c6 93=f4 94=f6 95=f2 96=fb 97=f9 98=130 99=d6 9a=dc 9b=f8 9c=a3 9d=d8 " ++
        "9e=15e a0=e1 a1=ed a2=f3 a3=fa a4=f1 a5=d1 a6=11e a8=bf a9=ae aa=ac ab=bd ac=bc ad=a1 " ++
        "ae=ab af=bb b0=2591 b3=2502 b4=2524 b5=c1 b7=c0 b8=a9 b9=2563 ba=2551 bb=2557 bc=255d " ++
        "bd=a2 be=a5 bf=2510 c0=2514 c1=2534 c2=252c c3=251c c4=2500 c5=253c c6=e3 c7=c3 c8=255a " ++
        "c9=2554 ca=2569 cb=2566 cc=2560 cd=2550 ce=256c cf=a4 d0=ba d1=aa d2=ca d4=c8 d5= d6=cd " ++
        "d9=2518 da=250c db=2588 dc=2584 dd=a6 de=cc df=2580 e0=d3 e1=df e2=d4 e3=d2 e4=f5 e5=d5 " ++
        "e6=b5 e7= e8=d7 e9=da eb=d9 ec=ec ed=ff ee=af ef=b4 f0=ad f1=b1 f2= f3=be f4=b6 f5=a7 " ++
        "f6=f7 f7=b8 f8=b0 f9=a8 fa=b7 fb=b9 fc=b3 fd=b2 fe=25a0 ff=a0")),
    ("cp858",
      ("0=0 80=c7 81=fc 82=e9 83=e2 84=e4 85=e0 86=e5 87=e7 88=ea 8a=e8 8b=ef 8c=ee 8d=ec 8e=c4 " ++
        "90=c9 91=e6 92=c6 93=f4 94=f6 95=f2 96=fb 97=f9 98=ff 99=d6 9a=dc 9b=f8 9c=a3 9d=d8 " ++
        "9e=d7 9f=192 a0=e1 a1=ed a2=f3 a3=fa a4=f1 a5=d1 a6=aa a7=ba a8=bf a9=ae aa=ac ab=bd " ++
        "ac=bc ad=a1 ae=ab af=bb b0=2591 b3=2502 b4=2524 b5=c1 b7=c0 b8=a9 b9=2563 ba=2551 " ++
        "bb=2557 bc=255d bd=a2 be=a5 bf=2510 c0=2514 c1=2534 c2=252c c3=251c c4=2500 c5=253c " ++
        "c6=e3 c7=c3 c8=255a c9=2554 ca=2569 cb=2566 cc=2560 cd=2550 ce=256c cf=a4 d0=f0 d1=d0 " ++
        "d2=ca d4=c8 d5=20ac d6=cd d9=2518 da=250c db=2588 dc=2584 dd=a6 de=cc df=2580 e0=d3 " ++
        "e1=df e2=d4 e3=d2 e4=f5 e5=d5 e6=b5 e7=fe e8=de e9=da eb=d9 ec=fd ed=dd ee=af ef=b4 " ++
        "f0=ad f1=b1 f2=2017 f3=be f4=b6 f5=a7 f6=f7 f7=b8 f8=b0 f9=a8 fa=b7 fb=b9 fc=b3 fd=b2 " ++
        "fe=25a0 ff=a0")),
    ("cp860",
      ("0=0 80=c7 81=fc 82=e9 83=e2 85=e0 86=c1 87=e7 88=ea 89=ca 8a=e8 8b=cd 8c=d4 8d=ec 8e=c3 " ++
        "8f=c2 90=c9 91=c0 92=c8 93=f4 95=f2 96=da 97=f9 98=cc 99=d5 9a=dc 9b=a2 9d=d9 9e=20a7 " ++
        "9f=d3 a0=e1 a1=ed a2=f3 a3=fa a4=f1 a5=d1 a6=aa a7=ba a8=bf a9=d2 aa=ac ab=bd ac=bc " ++
        "ad=a1 ae=ab af=bb b0=2591 b3=2502 b4=2524 b5=2561 b7=2556 b8=2555 b9=2563 ba=2551 " ++
        "bb=2557 bc=255d bd=255c be=255b bf=2510 c0=2514 c1=2534 c2=252c c3=251c c4=2500 c5=253c " ++
        "c6=255e c8=255a c9=2554 ca=2569 cb=2566 cc=2560 cd=2550 ce=256c cf=2567 d1=2564 d3=2559 " ++
        "d4=2558 d5=2552 d7=256b d8=256a d9=2518 da=250c db=2588 dc=2584 dd=258c de=2590 df=2580 " ++
        "e0=3b1 e1=df e2=393 e3=3c0 e4=3a3 e5=3c3 e6=b5 e7=3c4 e8=3a6 e9=398 ea=3a9 eb=3b4 " ++
        "ec=221e ed=3c6 ee=3b5 ef=2229 f0=2261 f1=b1 f2=2265 f3=2264 f4=2320 f6=f7 f7=2248 f8=b0 " ++
        "f9=2219 fa=b7 fb=221a fc=207f fd=b2 fe=25a0 ff=a0")),
    ("cp861",
      ("0=0 80=c7 81=fc 82=e9 83=e2 84=e4 85=e0 86=e5 87=e7 88=ea 8a=e8 8b=d0 8c=f0 8d=de 8e=c4 " ++
        "90=c9 91=e6 92=c6 93=f4 94=f6 95=fe 96=fb 97=dd 98=fd 99=d6 9a=dc 9b=f8 9c=a3 9d=d8 " ++
        "9e=20a7 9f=192 a0=e1 a1=ed a2=f3 a3=fa a4=c1 a5=cd a6=d3 a7=da a8=bf a9=2310 aa=ac ab=bd " ++
        "ac=bc ad=a1 ae=ab af=bb b0=2591 b3=2502 b4=2524 b5=2561 b7=2556 b8=2555 b9=2563 ba=2551 " ++
        "bb=2557 bc=255d bd=255c be=255b bf=2510 c0=2514 c1=2534 c2=252c c3=251c c4=2500 c5=253c " ++
        "c6=255e c8=255a c9=2554 ca=2569 cb=2566 cc=2560 cd=2550 ce=256c cf=2567 d1=2564 d3=2559 " ++
        "d4=2558 d5=2552 d7=256b d8=256a d9=2518 da=250c db=2588 dc=2584 dd=258c de=2590 df=2580 " ++
        "e0=3b1 e1=df e2=393 e3=3c0 e4=3a3 e5=3c3 e6=b5 e7=3c4 e8=3a6 e9=398 ea=3a9 eb=3b4 " ++
        "ec=221e ed=3c6 ee=3b5 ef=2229 f0=2261 f1=b1 f2=2265 f3=2264 f4=2320 f6=f7 f7=2248 f8=b0 " ++
        "f9=2219 fa=b7 fb=221a fc=207f fd=b2 fe=25a0 ff=a0")),
    ("cp862",
      ("0=0 80=5d0 9b=a2 9d=a5 9e=20a7 9f=192 a0=e1 a1=ed a2=f3 a3=fa a4=f1 a5=d1 a6=aa a7=ba " ++
        "a8=bf a9=2310 aa=ac ab=bd ac=bc ad=a1 ae=ab af=bb b0=2591 b3=2502 b4=2524 b5=2561 " ++
        "b7=2556 b8=2555 b9=2563 ba=2551 bb=2557 bc=255d bd=255c be=255b bf=2510 c0=2514 c1=2534 " ++
        "c2=252c c3=251c c4=2500 c5=253c c6=255e c8=255a c9=2554 ca=2569 cb=2566 cc=2560 cd=2550 " ++
        "ce=256c cf=2567 d1=2564 d3=2559 d4=2558 d5=2552 d7=256b d8=256a d9=2518 da=250c db=2588 " ++
        "dc=2584 dd=258c de=2590 df=2580 e0=3b1 e1=df e2=393 e3=3c0 e4=3a3 e5=3c3 e6=b5 e7=3c4 " ++
        "e8=3a6 e9=398 ea=3a9 eb=3b4 ec=221e ed=3c6 ee=3b5 ef=2229 f0=2261 f1=b1 f2=2265 f3=2264 " ++
        "f4=2320 f6=f7 f7=2248 f8=b0 f9=2219 fa=b7 fb=221a fc=207f fd=b2 fe=25a0 ff=a0")),
    ("cp863",
      ("0=0 80=c7 81=fc 82=e9 83=e2 84=c2 85=e0 86=b6 87=e7 88=ea 8a=e8 8b=ef 8c=ee 8d=2017 " ++
        "8e=c0 8f=a7 90=c9 91=c8 92=ca 93=f4 94=cb 95=cf 96=fb 97=f9 98=a4 99=d4 9a=dc 9b=a2 " ++
        "9d=d9 9e=db 9f=192 a0=a6 a1=b4 a2=f3 a3=fa a4=a8 a5=b8 a6=b3 a7=af a8=ce a9=2310 aa=ac " ++
        "ab=bd ac=bc ad=be ae=ab af=bb b0=2591 b3=2502 b4=2524 b5=2561 b7=2556 b8=2555 b9=2563 " ++
        "ba=2551 bb=2557 bc=255d bd=255c be=255b bf=2510 c0=2514 c1=2534 c2=252c c3=251c c4=2500 " ++
        "c5=253c c6=255e c8=255a c9=2554 ca=2569 cb=2566 cc=2560 cd=2550 ce=256c cf=2567 d1=2564 " ++
        "d3=2559 d4=2558 d5=2552 d7=256b d8=256a d9=2518 da=250c db=2588 dc=2584 dd=258c de=2590 " ++
        "df=2580 e0=3b1 e1=df e2=393 e3=3c0 e4=3a3 e5=3c3 e6=b5 e7=3c4 e8=3a6 e9=398 ea=3a9 " ++
        "eb=3b4 ec=221e ed=3c6 ee=3b5 ef=2229 f0=2261 f1=b1 f2=2265 f3=2264 f4=2320 f6=f7 f7=2248 " ++
        "f8=b0 f9=2219 fa=b7 fb=221a fc=207f fd=b2 fe=25a0 ff=a0")),
    ("cp864",
      ("0=0 25=66a 26=26 80=b0 81=b7 82=2219 84=2592 85=2500 86=2502 87=253c 88=2524 89=252c " ++
        "8a=251c 8b=2534 8c=2510 8d=250c 8e=2514 8f=2518 90=3b2 91=221e 92=3c6 93=b1 94=bd 95=bc " ++
        "96=2248 97=ab 98=bb 99=fef7 9b= 9d=fefb 9f= a0=a0 a1=ad a2=fe82 a3=a3 a5=fe84 a6= " ++
        "a8=fe8e aa=fe95 ab=fe99 ac=60c ad=fe9d ae=fea1 af=fea5 b0=660 ba=fed1 bb=61b bc=feb1 " ++
        "bd=feb5 be=feb9 bf=61f c0=a2 c1=fe80 c3=fe83 c4=fe85 c5=feca c6=fe8b c7=fe8d c8=fe91 " ++
        "c9=fe93 ca=fe97 cb=fe9b cc=fe9f cd=fea3 ce=fea7 cf=fea9 d0=feab d1=fead d2=feaf d3=feb3 " ++
        "d4=feb7 d5=febb d6=febf d7=fec1 d8=fec5 d9=fecb da=fecf db=a6 dc=ac dd=f7 de=d7 df=fec9 " ++
        "e0=640 e1=fed3 e2=fed7 e3=fedb e4=fedf e5=fee3 e6=fee7 e7=feeb e8=feed e9=feef ea=fef3 " ++
        "eb=febd ec=fecc ed=fece ee=fecd ef=fee1 f0=fe7d f1=651 f2=fee5 f3=fee9 f4=feec f5=fef0 " ++
        "f6=fef2 f7=fed0 f8=fed5 f9=fef5 fb=fedd fc=fed9 fd=fef1 fe=25a0 ff=")),
    ("cp865",
      ("0=0 80=c7 81=fc 82=e9 83=e2 84=e4 85=e0 86=e5 87=e7 88=ea 8a=e8 8b=ef 8c=ee 8d=ec 8e=c4 " ++
        "90=c9 91=e6 92=c6 93=f4 94=f6 95=f2 96=fb 97=f9 98=ff 99=d6 9a=dc 9b=f8 9c=a3 9d=d8 " ++
        "9e=20a7 9f=192 a0=e1 a1=ed a2=f3 a3=fa a4=f1 a5=d1 a6=aa a7=ba a8=bf a9=2310 aa=ac ab=bd " ++
        "ac=bc ad=a1 ae=ab af=a4 b0=2591 b3=2502 b4=2524 b5=2561 b7=2556 b8=2555 b9=2563 ba=2551 " ++
        "bb=2557 bc=255d bd=255c be=255b bf=2510 c0=2514 c1=2534 c2=252c c3=251c c4=2500 c5=253c " ++
        "c6=255e c8=255a c9=2554 ca=2569 cb=2566 cc=2560 cd=2550 ce=256c cf=2567 d1=2564 d3=2559 " ++
        "d4=2558 d5=2552 d7=256b d8=256a d9=2518 da=250c db=2588 dc=2584 dd=258c de=2590 df=2580 " ++
        "e0=3b1 e1=df e2=393 e3=3c0 e4=3a3 e5=3c3 e6=b5 e7=3c4 e8=3a6 e9=398 ea=3a9 eb=3b4 " ++
        "ec=221e ed=3c6 ee=3b5 ef=2229 f0=2261 f1=b1 f2=2265 f3=2264 f4=2320 f6=f7 f7=2248 f8=b0 " ++
        "f9=2219 fa=b7 fb=221a fc=207f fd=b2 fe=25a0 ff=a0")),
    ("cp866",
      ("0=0 80=410 b0=2591 b3=2502 b4=2524 b5=2561 b7=2556 b8=2555 b9=2563 ba=2551 bb=2557 " ++
        "bc=255d bd=255c be=255b bf=2510 c0=2514 c1=2534 c2=252c c3=251c c4=2500 c5=253c c6=255e " ++
        "c8=255a c9=2554 ca=2569 cb=2566 cc=2560 cd=2550 ce=256c cf=2567 d1=2564 d3=2559 d4=2558 " ++
        "d5=2552 d7=256b d8=256a d9=2518 da=250c db=2588 dc=2584 dd=258c de=2590 df=2580 e0=440 " ++
        "f0=401 f1=451 f2=404 f3=454 f4=407 f5=457 f6=40e f7=45e f8=b0 f9=2219 fa=b7 fb=221a " ++
        "fc=2116 fd=a4 fe=25a0 ff=a0")),
    ("cp869",
      ("0=0 80= 86=386 87= 88=b7 89=ac 8a=a6 8b=2018 8d=388 8e=2015 8f=389 91=3aa 92=38c 93= " ++
        "95=38e 96=3ab 97=a9 98=38f 99=b2 9b=3ac 9c=a3 9d=3ad a0=3ca a1=390 a2=3cc a4=391 ab=bd " ++
        "ac=398 ae=ab af=bb b0=2591 b3=2502 b4=2524 b5=39a b9=2563 ba=2551 bb=2557 bc=255d bd=39e " ++
        "bf=2510 c0=2514 c1=2534 c2=252c c3=251c c4=2500 c5=253c c6=3a0 c8=255a c9=2554 ca=2569 " ++
        "cb=2566 cc=2560 cd=2550 ce=256c cf=3a3 d6=3b1 d9=2518 da=250c db=2588 dc=2584 dd=3b4 " ++
        "df=2580 e0=3b6 ec=3c3 ed=3c2 ee=3c4 ef=384 f0=ad f1=b1 f2=3c5 f5=a7 f6=3c8 f7=385 f8=b0 " ++
        "f9=a8 fa=3c9 fb=3cb fc=3b0 fd=3ce fe=25a0 ff=a0")),
    ("cp874",
      ("0=0 80=20ac 81= 85=2026 86= 91=2018 93=201c 95=2022 96=2013 98= a0=a0 a1=e01 db= df=e3f " ++
        "fc=")),
    ("cp875",
      ("0=0 4=9c 5=9 6=86 7=7f 8=97 9=8d b=b 14=9d 15=85 16=8 17=87 18=18 1a=92 1b=8f 1c=1c " ++
        "20=80 25=a 26=17 27=1b 28=88 2d=5 30=90 32=16 33=93 37=4 38=98 3c=14 3e=9e 3f=1a 40=20 " ++
        "41=391 4a=5b 4b=2e 4c=3c 4d=28 4e=2b 4f=21 50=26 51=39a 59=3a3 5a=5d 5b=24 5c=2a 5d=29 " ++
        "5e=3b 5f=5e 60=2d 61=2f 62=3a4 6a=7c 6b=2c 6c=25 6d=5f 6e=3e 70=a8 71=386 72=388 74=a0 " ++
        "75=38a 76=38c 77=38e 79=60 7a=3a 7b=23 7c=40 7d=27 7e=3d 7f=22 80=385 81=61 8a=3b1 90=b0 " ++
        "91=6a 9a=3b7 a0=b4 a1=7e a2=73 aa=3bd af=3c3 b0=a3 b1=3ac b4=3ca b5=3af b6=3cc b8=3cb " ++
        "b9=3ce ba=3c2 bb=3c4 c0=7b c1=41 ca=ad cb=3c9 cc=390 cd=3b0 ce=2018 cf=2015 d0=7d d1=4a " ++
        "da=b1 db=bd dc=1a dd=387 de=2019 df=a6 e0=5c e1=1a e2=53 ea=b2 eb=a7 ec=1a ed=1a ee=ab " ++
        "f0=30 fa=b3 fb=a9 fc=1a fd=1a fe=bb ff=9f")),
    ("hp-roman8",
      ("0=0 a1=c0 a2=c2 a3=c8 a4=ca a6=ce a8=b4 a9=2cb aa=2c6 ab=a8 ac=2dc ad=d9 ae=db af=20a4 " ++
        "b0=af b1=dd b2=fd b3=b0 b4=c7 b5=e7 b6=d1 b7=f1 b8=a1 b9=bf ba=a4 bb=a3 bc=a5 bd=a7 " ++
        "be=192 bf=a2 c0=e2 c1=ea c2=f4 c3=fb c4=e1 c5=e9 c6=f3 c7=fa c8=e0 c9=e8 ca=f2 cb=f9 " ++
        "cc=e4 cd=eb ce=f6 cf=fc d0=c5 d1=ee d2=d8 d3=c6 d4=e5 d5=ed d6=f8 d7=e6 d8=c4 d9=ec " ++
        "da=d6 db=dc dc=c9 dd=ef de=df df=d4 e0=c1 e1=c3 e2=e3 e3=d0 e4=f0 e5=cd e6=cc e7=d3 " ++
        "e8=d2 e9=d5 ea=f5 eb=160 ed=da ee=178 ef=ff f0=de f1=fe f2=b7 f3=b5 f5=be f6=2014 f7=bc " ++
        "f9=aa fa=ba fb=ab fc=25a0 fd=bb fe=b1 ff=")),
    ("iso8859-10",
      ("0=0 a1=104 a2=112 a3=122 a4=12a a5=128 a6=136 a7=a7 a8=13b a9=110 aa=160 ab=166 ac=17d " ++
        "ad=ad ae=16a af=14a b0=b0 b1=105 b2=113 b3=123 b4=12b b5=129 b6=137 b7=b7 b8=13c b9=111 " ++
        "ba=161 bb=167 bc=17e bd=2015 be=16b bf=14b c0=100 c1=c1 c7=12e c8=10c c9=c9 ca=118 cb=cb " ++
        "cc=116 cd=cd d1=145 d2=14c d3=d3 d7=168 d8=d8 d9=172 da=da e0=101 e1=e1 e7=12f e8=10d " ++
        "e9=e9 ea=119 eb=eb ec=117 ed=ed f1=146 f2=14d f3=f3 f7=169 f8=f8 f9=173 fa=fa ff=138")),
    ("iso8859-11",
      "0=0 a1=e01 db= df=e3f fc="),
    ("iso8859-13",
      ("0=0 a1=201d a2=a2 a5=201e a6=a6 a8=d8 a9=a9 aa=156 ab=ab af=c6 b0=b0 b4=201c b5=b5 b8=f8 " ++
        "b9=b9 ba=157 bb=bb bf=e6 c0=104 c1=12e c2=100 c3=106 c4=c4 c6=118 c7=112 c8=10c c9=c9 " ++
        "ca=179 cb=116 cc=122 cd=136 ce=12a cf=13b d0=160 d1=143 d2=145 d3=d3 d4=14c d5=d5 d8=172 " ++
        "d9=141 da=15a db=16a dc=dc dd=17b de=17d df=df e0=105 e1=12f e2=101 e3=107 e4=e4 e6=119 " ++
        "e7=113 e8=10d e9=e9 ea=17a eb=117 ec=123 ed=137 ee=12b ef=13c f0=161 f1=144 f2=146 f3=f3 " ++
        "f4=14d f5=f5 f8=173 f9=142 fa=15b fb=16b fc=fc fd=17c fe=17e ff=2019")),
    ("iso8859-14",
      ("0=0 a1=1e02 a3=a3 a4=10a a6=1e0a a7=a7 a8=1e80 a9=a9 aa=1e82 ab=1e0b ac=1ef2 ad=ad " ++
        "af=178 b0=1e1e b2=120 b4=1e40 b6=b6 b7=1e56 b8=1e81 b9=1e57 ba=1e83 bb=1e60 bc=1ef3 " ++
        "bd=1e84 bf=1e61 c0=c0 d0=174 d1=d1 d7=1e6a d8=d8 de=176 df=df f0=175 f1=f1 f7=1e6b f8=f8 " ++
        "fe=177 ff=ff")),
    ("iso8859-15",
      ("0=0 a4=20ac a5=a5 a6=160 a7=a7 a8=161 a9=a9 b4=17d b5=b5 b8=17e b9=b9 bc=152 be=178 " ++
        "bf=bf")),
    ("iso8859-16",
      ("0=0 a1=104 a3=141 a4=20ac a5=201e a6=160 a7=a7 a8=161 a9=a9 aa=218 ab=ab ac=179 ad=ad " ++
        "ae=17a b0=b0 b2=10c b3=142 b4=17d b5=201d b6=b6 b8=17e b9=10d ba=219 bb=bb bc=152 be=178 " ++
        "bf=17c c0=c0 c3=102 c4=c4 c5=106 c6=c6 d0=110 d1=143 d2=d2 d5=150 d6=d6 d7=15a d8=170 " ++
        "d9=d9 dd=118 de=21a df=df e3=103 e4=e4 e5=107 e6=e6 f0=111 f1=144 f2=f2 f5=151 f6=f6 " ++
        "f7=15b f8=171 f9=f9 fd=119 fe=21b ff=ff")),
    ("iso8859-2",
      ("0=0 a1=104 a2=2d8 a3=141 a4=a4 a5=13d a6=15a a7=a7 a9=160 aa=15e ab=164 ac=179 ad=ad " ++
        "ae=17d af=17b b0=b0 b1=105 b2=2db b3=142 b4=b4 b5=13e b6=15b b7=2c7 b8=b8 b9=161 ba=15f " ++
        "bb=165 bc=17a bd=2dd be=17e bf=17c c0=154 c1=c1 c3=102 c4=c4 c5=139 c6=106 c7=c7 c8=10c " ++
        "c9=c9 ca=118 cb=cb cc=11a cd=cd cf=10e d0=110 d1=143 d2=147 d3=d3 d5=150 d6=d6 d8=158 " ++
        "d9=16e da=da db=170 dc=dc de=162 df=df e0=155 e1=e1 e3=103 e4=e4 e5=13a e6=107 e7=e7 " ++
        "e8=10d e9=e9 ea=119 eb=eb ec=11b ed=ed ef=10f f0=111 f1=144 f2=148 f3=f3 f5=151 f6=f6 " ++
        "f8=159 f9=16f fa=fa fb=171 fc=fc fe=163 ff=2d9")),
    ("iso8859-3",
      ("0=0 a1=126 a2=2d8 a3=a3 a5= a6=124 a7=a7 a9=130 aa=15e ab=11e ac=134 ad=ad ae= af=17b " ++
        "b0=b0 b1=127 b2=b2 b6=125 b7=b7 b9=131 ba=15f bb=11f bc=135 bd=bd be= bf=17c c0=c0 c3= " ++
        "c4=c4 c5=10a c6=108 c7=c7 d0= d1=d1 d5=120 d6=d6 d8=11c d9=d9 dd=16c de=15c df=df e3= " ++
        "e4=e4 e5=10b e6=109 e7=e7 f0= f1=f1 f5=121 f6=f6 f8=11d f9=f9 fd=16d fe=15d ff=2d9")),
    ("iso8859-4",
      ("0=0 a1=104 a2=138 a3=156 a4=a4 a5=128 a6=13b a7=a7 a9=160 aa=112 ab=122 ac=166 ad=ad " ++
        "ae=17d af=af b1=105 b2=2db b3=157 b4=b4 b5=129 b6=13c b7=2c7 b8=b8 b9=161 ba=113 bb=123 " ++
        "bc=167 bd=14a be=17e bf=14b c0=100 c1=c1 c7=12e c8=10c c9=c9 ca=118 cb=cb cc=116 cd=cd " ++
        "cf=12a d0=110 d1=145 d2=14c d3=136 d4=d4 d9=172 da=da dd=168 de=16a df=df e0=101 e1=e1 " ++
        "e7=12f e8=10d e9=e9 ea=119 eb=eb ec=117 ed=ed ef=12b f0=111 f1=146 f2=14d f3=137 f4=f4 " ++
        "f9=173 fa=fa fd=169 fe=16b ff=2d9")),
    ("iso8859-5",
      "0=0 a1=401 ad=ad ae=40e f0=2116 f1=451 fd=a7 fe=45e"),
    ("iso8859-6",
      "0=0 a1= a4=a4 a5= ac=60c ad=ad ae= bb=61b bc= bf=61f c0= c1=621 db= e0=640 f3="),
    ("iso8859-7",
      ("0=0 a1=2018 a3=a3 a4=20ac a5=20af a6=a6 aa=37a ab=ab ae= af=2015 b0=b0 b4=384 b7=b7 " ++
        "b8=388 bb=bb bc=38c bd=bd be=38e d2= d3=3a3 ff=")),
    ("iso8859-8",
      "0=0 a1= a2=a2 aa=d7 ab=ab ba=f7 bb=bb bf= df=2017 e0=5d0 fb= fd=200e ff="),
    ("iso8859-9",
      "0=0 d0=11e d1=d1 dd=130 de=15e df=df f0=11f f1=f1 fd=131 fe=15f ff=ff"),
    ("koi8-r",
      ("0=0 80=2500 81=2502 82=250c 83=2510 84=2514 85=2518 86=251c 87=2524 88=252c 89=2534 " ++
        "8a=253c 8b=2580 8c=2584 8d=2588 8e=258c 8f=2590 93=2320 94=25a0 95=2219 97=2248 98=2264 " ++
        "9a=a0 9b=2321 9c=b0 9d=b2 9e=b7 9f=f7 a0=2550 a3=451 a4=2553 b3=401 b4=2562 bf=a9 c0=44e " ++
        "c1=430 c3=446 c4=434 c6=444 c7=433 c8=445 c9=438 d1=44f d2=440 d6=436 d7=432 d8=44c " ++
        "d9=44b da=437 db=448 dc=44d dd=449 de=447 df=44a e0=42e e1=410 e3=426 e4=414 e6=424 " ++
        "e7=413 e8=425 e9=418 f1=42f f2=420 f6=416 f7=412 f8=42c f9=42b fa=417 fb=428 fc=42d " ++
        "fd=429 fe=427 ff=42a")),
    ("koi8-t",
      ("0=0 80=49b 81=493 82=201a 83=492 84=201e 85=2026 86=2020 88= 89=2030 8a=4b3 8b=2039 " ++
        "8c=4b2 8d=4b7 8e=4b6 8f= 90=49a 91=2018 93=201c 95=2022 96=2013 98= 99=2122 9a= 9b=203a " ++
        "9c= a1=4ef a2=4ee a3=451 a4=a4 a5=4e3 a6=a6 a8= ab=ab af= b0=b0 b3=401 b4= b5=4e2 b6=b6 " ++
        "b8= b9=2116 ba= bb=bb bc= bf=a9 c0=44e c1=430 c3=446 c4=434 c6=444 c7=433 c8=445 c9=438 " ++
        "d1=44f d2=440 d6=436 d7=432 d8=44c d9=44b da=437 db=448 dc=44d dd=449 de=447 df=44a " ++
        "e0=42e e1=410 e3=426 e4=414 e6=424 e7=413 e8=425 e9=418 f1=42f f2=420 f6=416 f7=412 " ++
        "f8=42c f9=42b fa=417 fb=428 fc=42d fd=429 fe=427 ff=42a")),
    ("koi8-u",
      ("0=0 80=2500 81=2502 82=250c 83=2510 84=2514 85=2518 86=251c 87=2524 88=252c 89=2534 " ++
        "8a=253c 8b=2580 8c=2584 8d=2588 8e=258c 8f=2590 93=2320 94=25a0 95=2219 97=2248 98=2264 " ++
        "9a=a0 9b=2321 9c=b0 9d=b2 9e=b7 9f=f7 a0=2550 a3=451 a4=454 a5=2554 a6=456 a8=2557 " ++
        "ad=491 ae=255d b3=401 b4=404 b5=2563 b6=406 b8=2566 bd=490 be=256c bf=a9 c0=44e c1=430 " ++
        "c3=446 c4=434 c6=444 c7=433 c8=445 c9=438 d1=44f d2=440 d6=436 d7=432 d8=44c d9=44b " ++
        "da=437 db=448 dc=44d dd=449 de=447 df=44a e0=42e e1=410 e3=426 e4=414 e6=424 e7=413 " ++
        "e8=425 e9=418 f1=42f f2=420 f6=416 f7=412 f8=42c f9=42b fa=417 fb=428 fc=42d fd=429 " ++
        "fe=427 ff=42a")),
    ("kz1048",
      ("0=0 80=402 82=201a 83=453 84=201e 85=2026 86=2020 88=20ac 89=2030 8a=409 8b=2039 8c=40a " ++
        "8d=49a 8e=4ba 8f=40f 90=452 91=2018 93=201c 95=2022 96=2013 98= 99=2122 9a=459 9b=203a " ++
        "9c=45a 9d=49b 9e=4bb 9f=45f a0=a0 a1=4b0 a3=4d8 a4=a4 a5=4e8 a6=a6 a8=401 a9=a9 aa=492 " ++
        "ab=ab af=4ae b0=b0 b2=406 b3=456 b4=4e9 b5=b5 b8=451 b9=2116 ba=493 bb=bb bc=4d9 bd=4a2 " ++
        "bf=4af c0=410")),
    ("mac-arabic",
      ("0=0 80=c4 81=a0 82=c7 83=c9 84=d1 85=d6 86=dc 87=e1 88=e0 89=e2 8a=e4 8b=6ba 8c=ab 8d=e7 " ++
        "8e=e9 8f=e8 90=ea 92=ed 93=2026 94=ee 96=f1 97=f3 98=bb 99=f4 9a=f6 9c=fa 9d=f9 9e=fb " ++
        "a0=20 a5=66a a6=26 ac=60c ad=2d b0=660 ba=3a bb=61b bc=3c bf=61f c0=274a c1=621 db=5b " ++
        "e0=640 f3=67e f4=679 f5=686 f6=6d5 f7=6a4 f8=6af f9=688 fa=691 fb=7b fe=698 ff=6d2")),
    ("mac-croatian",
      ("0=0 80=c4 82=c7 83=c9 84=d1 85=d6 86=dc 87=e1 88=e0 89=e2 8a=e4 8b=e3 8c=e5 8d=e7 8e=e9 " ++
        "8f=e8 90=ea 92=ed 93=ec 94=ee 96=f1 97=f3 98=f2 99=f4 9a=f6 9b=f5 9c=fa 9d=f9 9e=fb " ++
        "a0=2020 a1=b0 a2=a2 a4=a7 a5=2022 a6=b6 a7=df a8=ae a9=160 aa=2122 ab=b4 ac=a8 ad=2260 " ++
        "ae=17d af=d8 b0=221e b1=b1 b2=2264 b4=2206 b5=b5 b6=2202 b7=2211 b8=220f b9=161 ba=222b " ++
        "bb=aa bc=ba bd=3a9 be=17e bf=f8 c0=bf c1=a1 c2=ac c3=221a c4=192 c5=2248 c6=106 c7=ab " ++
        "c8=10c c9=2026 ca=a0 cb=c0 cc=c3 cd=d5 ce=152 d0=110 d1=2014 d2=201c d4=2018 d6=f7 " ++
        "d7=25ca d8=f8ff d9=a9 da=2044 db=20ac dc=2039 de=c6 df=bb e0=2013 e1=b7 e2=201a e3=201e " ++
        "e4=2030 e5=c2 e6=107 e7=c1 e8=10d e9=c8 ea=cd ed=cc ee=d3 f0=111 f1=d2 f2=da f4=d9 " ++
        "f5=131 f6=2c6 f7=2dc f8=af f9=3c0 fa=cb fb=2da fc=b8 fd=ca fe=e6 ff=2c7")),
    ("mac-cyrillic",
      ("0=0 80=410 a0=2020 a1=b0 a2=490 a3=a3 a4=a7 a5=2022 a6=b6 a7=406 a8=ae a9=a9 aa=2122 " ++
        "ab=402 ac=452 ad=2260 ae=403 af=453 b0=221e b1=b1 b2=2264 b4=456 b5=b5 b6=491 b7=408 " ++
        "b8=404 b9=454 ba=407 bb=457 bc=409 bd=459 be=40a bf=45a c0=458 c1=405 c2=ac c3=221a " ++
        "c4=192 c5=2248 c6=2206 c7=ab c8=bb c9=2026 ca=a0 cb=40b cc=45b cd=40c ce=45c cf=455 " ++
        "d0=2013 d2=201c d4=2018 d6=f7 d7=201e d8=40e d9=45e da=40f db=45f dc=2116 dd=401 de=451 " ++
        "df=44f e0=430 ff=20ac")),
    ("mac-farsi",
      ("0=0 80=c4 81=a0 82=c7 83=c9 84=d1 85=d6 86=dc 87=e1 88=e0 89=e2 8a=e4 8b=6ba 8c=ab 8d=e7 " ++
        "8e=e9 8f=e8 90=ea 92=ed 93=2026 94=ee 96=f1 97=f3 98=bb 99=f4 9a=f6 9c=fa 9d=f9 9e=fb " ++
        "a0=20 a5=66a a6=26 ac=60c ad=2d b0=6f0 ba=3a bb=61b bc=3c bf=61f c0=274a c1=621 db=5b " ++
        "e0=640 f3=67e f4=679 f5=686 f6=6d5 f7=6a4 f8=6af f9=688 fa=691 fb=7b fe=698 ff=6d2")),
    ("mac-greek",
      ("0=0 80=c4 81=b9 82=b2 83=c9 84=b3 85=d6 86=dc 87=385 88=e0 89=e2 8a=e4 8b=384 8c=a8 " ++
        "8d=e7 8e=e9 8f=e8 90=ea 92=a3 93=2122 94=ee 96=2022 97=bd 98=2030 99=f4 9a=f6 9b=a6 " ++
        "9c=20ac 9d=f9 9e=fb a0=2020 a1=393 a3=398 a4=39b a5=39e a6=3a0 a7=df a8=ae a9=a9 aa=3a3 " ++
        "ab=3aa ac=a7 ad=2260 ae=b0 af=b7 b0=391 b1=b1 b2=2264 b4=a5 b5=392 b6=395 b9=399 bb=39c " ++
        "bc=3a6 bd=3ab be=3a8 c0=3ac c1=39d c2=ac c3=39f c4=3a1 c5=2248 c6=3a4 c7=ab c8=bb " ++
        "c9=2026 ca=a0 cb=3a5 cc=3a7 cd=386 ce=388 cf=153 d0=2013 d1=2015 d2=201c d4=2018 d6=f7 " ++
        "d7=389 d9=38c da=38e db=3ad de=3cc df=38f e0=3cd e1=3b1 e3=3c8 e4=3b4 e6=3c6 e7=3b3 " ++
        "e8=3b7 e9=3b9 ea=3be eb=3ba ef=3bf f1=3ce f2=3c1 f3=3c3 f5=3b8 f6=3c9 f7=3c2 f8=3c7 " ++
        "f9=3c5 fa=3b6 fb=3ca fd=390 fe=3b0 ff=ad")),
    ("mac-iceland",
      ("0=0 80=c4 82=c7 83=c9 84=d1 85=d6 86=dc 87=e1 88=e0 89=e2 8a=e4 8b=e3 8c=e5 8d=e7 8e=e9 " ++
        "8f=e8 90=ea 92=ed 93=ec 94=ee 96=f1 97=f3 98=f2 99=f4 9a=f6 9b=f5 9c=fa 9d=f9 9e=fb " ++
        "a0=dd a1=b0 a2=a2 a4=a7 a5=2022 a6=b6 a7=df a8=ae a9=a9 aa=2122 ab=b4 ac=a8 ad=2260 " ++
        "ae=c6 af=d8 b0=221e b1=b1 b2=2264 b4=a5 b5=b5 b6=2202 b7=2211 b8=220f b9=3c0 ba=222b " ++
        "bb=aa bc=ba bd=3a9 be=e6 bf=f8 c0=bf c1=a1 c2=ac c3=221a c4=192 c5=2248 c6=2206 c7=ab " ++
        "c8=bb c9=2026 ca=a0 cb=c0 cc=c3 cd=d5 ce=152 d0=2013 d2=201c d4=2018 d6=f7 d7=25ca d8=ff " ++
        "d9=178 da=2044 db=20ac dc=d0 dd=f0 de=de df=fe e0=fd e1=b7 e2=201a e3=201e e4=2030 e5=c2 " ++
        "e6=ca e7=c1 e8=cb e9=c8 ea=cd ed=cc ee=d3 f0=f8ff f1=d2 f2=da f4=d9 f5=131 f6=2c6 f7=2dc " ++
        "f8=af f9=2d8 fc=b8 fd=2dd fe=2db ff=2c7")),
    ("mac-latin2",
      ("0=0 80=c4 81=100 83=c9 84=104 85=d6 86=dc 87=e1 88=105 89=10c 8a=e4 8b=10d 8c=106 8e=e9 " ++
        "8f=179 91=10e 92=ed 93=10f 94=112 96=116 97=f3 98=117 99=f4 9a=f6 9b=f5 9c=fa 9d=11a " ++
        "9f=fc a0=2020 a1=b0 a2=118 a3=a3 a4=a7 a5=2022 a6=b6 a7=df a8=ae a9=a9 aa=2122 ab=119 " ++
        "ac=a8 ad=2260 ae=123 af=12e b1=12a b2=2264 b4=12b b5=136 b6=2202 b7=2211 b8=142 b9=13b " ++
        "bd=139 bf=145 c1=143 c2=ac c3=221a c4=144 c5=147 c6=2206 c7=ab c8=bb c9=2026 ca=a0 " ++
        "cb=148 cc=150 cd=d5 ce=151 cf=14c d0=2013 d2=201c d4=2018 d6=f7 d7=25ca d8=14d d9=154 " ++
        "db=158 dc=2039 de=159 df=156 e1=160 e2=201a e3=201e e4=161 e5=15a e7=c1 e8=164 ea=cd " ++
        "eb=17d ed=16a ee=d3 f0=16b f1=16e f2=da f3=16f f8=dd f9=fd fa=137 fb=17b fc=141 fd=17c " ++
        "fe=122 ff=2c7")),
    ("mac-roman",
      ("0=0 80=c4 82=c7 83=c9 84=d1 85=d6 86=dc 87=e1 88=e0 89=e2 8a=e4 8b=e3 8c=e5 8d=e7 8e=e9 " ++
        "8f=e8 90=ea 92=ed 93=ec 94=ee 96=f1 97=f3 98=f2 99=f4 9a=f6 9b=f5 9c=fa 9d=f9 9e=fb " ++
        "a0=2020 a1=b0 a2=a2 a4=a7 a5=2022 a6=b6 a7=df a8=ae a9=a9 aa=2122 ab=b4 ac=a8 ad=2260 " ++
        "ae=c6 af=d8 b0=221e b1=b1 b2=2264 b4=a5 b5=b5 b6=2202 b7=2211 b8=220f b9=3c0 ba=222b " ++
        "bb=aa bc=ba bd=3a9 be=e6 bf=f8 c0=bf c1=a1 c2=ac c3=221a c4=192 c5=2248 c6=2206 c7=ab " ++
        "c8=bb c9=2026 ca=a0 cb=c0 cc=c3 cd=d5 ce=152 d0=2013 d2=201c d4=2018 d6=f7 d7=25ca d8=ff " ++
        "d9=178 da=2044 db=20ac dc=2039 de=fb01 e0=2021 e1=b7 e2=201a e3=201e e4=2030 e5=c2 e6=ca " ++
        "e7=c1 e8=cb e9=c8 ea=cd ed=cc ee=d3 f0=f8ff f1=d2 f2=da f4=d9 f5=131 f6=2c6 f7=2dc f8=af " ++
        "f9=2d8 fc=b8 fd=2dd fe=2db ff=2c7")),
    ("mac-romanian",
      ("0=0 80=c4 82=c7 83=c9 84=d1 85=d6 86=dc 87=e1 88=e0 89=e2 8a=e4 8b=e3 8c=e5 8d=e7 8e=e9 " ++
        "8f=e8 90=ea 92=ed 93=ec 94=ee 96=f1 97=f3 98=f2 99=f4 9a=f6 9b=f5 9c=fa 9d=f9 9e=fb " ++
        "a0=2020 a1=b0 a2=a2 a4=a7 a5=2022 a6=b6 a7=df a8=ae a9=a9 aa=2122 ab=b4 ac=a8 ad=2260 " ++
        "ae=102 af=218 b0=221e b1=b1 b2=2264 b4=a5 b5=b5 b6=2202 b7=2211 b8=220f b9=3c0 ba=222b " ++
        "bb=aa bc=ba bd=3a9 be=103 bf=219 c0=bf c1=a1 c2=ac c3=221a c4=192 c5=2248 c6=2206 c7=ab " ++
        "c8=bb c9=2026 ca=a0 cb=c0 cc=c3 cd=d5 ce=152 d0=2013 d2=201c d4=2018 d6=f7 d7=25ca d8=ff " ++
        "d9=178 da=2044 db=20ac dc=2039 de=21a e0=2021 e1=b7 e2=201a e3=201e e4=2030 e5=c2 e6=ca " ++
        "e7=c1 e8=cb e9=c8 ea=cd ed=cc ee=d3 f0=f8ff f1=d2 f2=da f4=d9 f5=131 f6=2c6 f7=2dc f8=af " ++
        "f9=2d8 fc=b8 fd=2dd fe=2db ff=2c7")),
    ("mac-turkish",
      ("0=0 80=c4 82=c7 83=c9 84=d1 85=d6 86=dc 87=e1 88=e0 89=e2 8a=e4 8b=e3 8c=e5 8d=e7 8e=e9 " ++
        "8f=e8 90=ea 92=ed 93=ec 94=ee 96=f1 97=f3 98=f2 99=f4 9a=f6 9b=f5 9c=fa 9d=f9 9e=fb " ++
        "a0=2020 a1=b0 a2=a2 a4=a7 a5=2022 a6=b6 a7=df a8=ae a9=a9 aa=2122 ab=b4 ac=a8 ad=2260 " ++
        "ae=c6 af=d8 b0=221e b1=b1 b2=2264 b4=a5 b5=b5 b6=2202 b7=2211 b8=220f b9=3c0 ba=222b " ++
        "bb=aa bc=ba bd=3a9 be=e6 bf=f8 c0=bf c1=a1 c2=ac c3=221a c4=192 c5=2248 c6=2206 c7=ab " ++
        "c8=bb c9=2026 ca=a0 cb=c0 cc=c3 cd=d5 ce=152 d0=2013 d2=201c d4=2018 d6=f7 d7=25ca d8=ff " ++
        "d9=178 da=11e dc=130 de=15e e0=2021 e1=b7 e2=201a e3=201e e4=2030 e5=c2 e6=ca e7=c1 " ++
        "e8=cb e9=c8 ea=cd ed=cc ee=d3 f0=f8ff f1=d2 f2=da f4=d9 f5=f8a0 f6=2c6 f7=2dc f8=af " ++
        "f9=2d8 fc=b8 fd=2dd fe=2db ff=2c7")),
    ("palmos",
      ("0=0 80=20ac 81=81 82=201a 83=192 84=201e 85=2026 86=2020 88=2c6 89=2030 8a=160 8b=2039 " ++
        "8c=152 8d=2666 8e=2663 8f=2665 90=2660 91=2018 93=201c 95=2022 96=2013 98=2dc 99=2122 " ++
        "9a=161 9b=9b 9c=153 9d=9d 9f=178 a0=a0")),
    ("ptcp154",
      ("0=0 80=496 81=492 82=4ee 83=493 84=201e 85=2026 86=4b6 87=4ae 88=4b2 89=4af 8a=4a0 " ++
        "8b=4e2 8c=4a2 8d=49a 8e=4ba 8f=4b8 90=497 91=2018 93=201c 95=2022 96=2013 98=4b3 99=4b7 " ++
        "9a=4a1 9b=4e3 9c=4a3 9d=49b 9e=4bb 9f=4b9 a0=a0 a1=40e a2=45e a3=408 a4=4e8 a5=498 " ++
        "a6=4b0 a7=a7 a8=401 a9=a9 aa=4d8 ab=ab ad=4ef ae=ae af=49c b0=b0 b1=4b1 b2=406 b3=456 " ++
        "b4=499 b5=4e9 b6=b6 b8=451 b9=2116 ba=4d9 bb=bb bc=458 bd=4aa bf=49d c0=410")),
    ("tis-620",
      "0=0 a0= a1=e01 db= df=e3f fc=")]

/-- A run of a page: its first byte and the code point that the byte stands for. -/
structure PageRun where
  first : Nat
  code : Option Nat

/-- Reads a run. -/
def PageRun.ofText (text : List Char) : PageRun :=
  let code := (text.dropWhile (· != '=')).tail
  { first := hexValue (text.takeWhile (· != '=')), code := if code.isEmpty then none else some (hexValue code) }

/-- The runs of a page. -/
def pageRuns? (name : String) : Option (List PageRun) :=
  (pages.lookup name).map fun text => (splitOn ' ' text.toList).map PageRun.ofText

/-- The character of a byte on a page; the last run that starts no later than the byte decides. -/
def pageChar (runs : List PageRun) (b : UInt8) : Char :=
  match (runs.filter fun r => r.first ≤ b.toNat).getLast? with
  | some { first, code := some code } => Char.ofNat (code + (b.toNat - first))
  | _ => '\ufffd'

end HttpCourier.Charset
