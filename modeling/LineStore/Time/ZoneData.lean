/-!
# Time zones of the tz database

One line for each zone: its names; its kinds of local time as `abbreviation/offset` in seconds, the
first one valid before all transitions; the rule for all later years; and the transitions, each a letter
for the kind that begins and the seconds since the previous one in base 36, starting at 1970.
-/
namespace LineStore.Time

def zoneTable : String :=
"Africa/Abidjan Iceland|LMT/-968 GMT/0|GMT0|B-u9rgl4
Africa/Accra|LMT/-52 GMT/0 +0020/1200 +0030/1800|GMT0|B-s9p1ak C24aamk B1yhyo Ccjvlc B69weo Cci0xc B69weo Cci0xc B69weo Cci0xc B69weo Ccjvlc B69weo Cci0xc B69weo Cci0xc B69weo Cci0xc B69weo Ccjvlc B69weo Cci0xc B69weo Cci0xc B69weo Cci0xc B69weo Ccjvlc B69weo Cci0xc B69weo Cci0xc B69weo Cci0xc B69weo Ccjvlc B69weo Cci0xc B69weo Cci0xc B69weo Cci0xc B69weo C683lc Bcloeo C668xc Bcloeo D1y8pc B21gem0 D2fehm0 B69vy0 Dci1e0 B69vy0 Dcjw20 B69vy0 Dci1e0 B69vy0 Dci1e0 B69vy0 Dci1e0 B69vy0
Africa/Addis_Ababa|LMT/9288 ADMT/9320 EAT/10800|EAT-3|B-1g6t8i0 Cymedb4
Africa/Algiers|LMT/732 PMT/561 WET/0 WEST/3600 CET/3600 CEST/7200|CET-1|B-154gb8c Cafgo4r D2qx1nl C5luo0 D8y800 Ca4tc0 D7vc00 Cauqo0 D7idc0 Cb7pc0 D6sg00 Ccyo00 D7ayo0 C53c00 D9idxc0 C3i040 E51mw0 F253uk0 E9o2k0 F92040 E8l3s0 Cjutc0 E4uy840 C3rdzw0 D46xc00 C7x6o0 D2xco40 E8n180 F7x9g0 E9d440 Ckiqg0 D9d440 C9q2s0 E9cyk0
Africa/Asmara|LMT/9332 AMT/9332 ADMT/9320 EAT/10800|EAT-3|B-1g6t8j8 Cafrs00 Do6mlcc
Africa/Asmera Africa/Nairobi|LMT/8836 +0230/9000 EAT/10800 +0245/9900|EAT-3|B-w6p5hg Caiwqjg Bsg1a0 D3nbte0 C2wu1z0
Africa/Bamako Africa/Timbuktu|LMT/-1920 GMT/0 -01/-3600|GMT0|B-u9rfuo Cbk956o Bdqe840
Africa/Bangui|LMT/4460 WAT/3600|WAT-1|B-u9rkrw
Africa/Banjul|LMT/-3996 BMT/-3996 -01/-3600 GMT/0|GMT0|B-u9re90 Cb38800 D4m1rp0
Africa/Bissau|LMT/-3740 -01/-3600 GMT/0|GMT0|B-u9rek0 Cwvoyo0
Africa/Blantyre|LMT/8400 ZMT/8470 ZMT/8460 CAT/7200|CAT-2|B-ui1t5c C1j56m2 D5qqlca
Africa/Brazzaville|LMT/3668 WAT/3600|WAT-1|B-u9rk5w
Africa/Bujumbura|LMT/7048 CAT/7200|CAT-2|B-15r1ers
Africa/Cairo Egypt|LMT/7509 EET/7200 EEST/10800|EET-2EEST,M4.5.5/0,M10.5.4/24|B-1054wgl Ckrj48l B40d80 Ca31g0 B7x3w0 Ca4w40 Baqyk0 C80ys0 Bb07w0 C7tk40 Bb07w0 C8jhg0 Ba8fw0 C60go40 B7el80 Cawo40 B7v980 Cawqw0 B7tk40 Cb07w0 B7tk40 Cayd80 B7tk40 Cayd80 B7tk40 Cayd80 B7tk40 Cb07w0 B7tk40 Cayd80 B7tk40 Cayd80 B7ves0 Cawik0 B7ves0 Cayd80 B7ves0 Cawik0 B7ves0 Cawik0 B7ves0 Cawik0 B7ves0 Cayd80 B7ves0 Cawik0 B7ves0 Cawik0 B7ves0 Cawik0 B7ves0 Cayd80 B7ves0 Cawik0 B7ves0 Cawik0 B7ves0 Cawik0 B7ves0 Cayd80 B7ves0 Cawik0 B7ves0 Cf9x80 B3i040 Celuk0 B462s0 Cayd80 B7ves0 Cawik0 B7ves0 Cawik0 B7ves0 Cawik0 B7ves0 Cayd80 B7ves0 Cb5rw0 B7m5g0 Cawik0 B7ves0 Cawik0 B7ves0 Cayd80 B7ves0 Cawik0 B7ves0 Cawik0 B7ves0 Caqvs0 B7x3w0 Casys0 B7x3w0 Casys0 B7x3w0 Casys0 B7x3w0 Cb5xg0 B7x3w0 Casys0 B7x3w0 Casys0 B7x3w0 Casys0 B7x3w0 Casys0 B7x3w0 Cb5xg0 B7x3w0 Casys0 B7x3w0 Casys0 B7k580 Cb5xg0 B6u7w0 Cbvus0 B6h980 Cc8tg0 B64ak0 Ccyqs0 B5anw0 C1jms0 B12t80 C1w22s0 B25p80 C1sw40 B2vmk0 C4hbhg0
Africa/Casablanca|LMT/-1820 +00/0 +01/3600|<+00>0<+01>,0/0,J365/25|B-tblt9g Cdi7nxg B3huk0 C51k40 B2znuk0 C2dp9g0 B776k0 C8nt2s0 B657w0 C3ifxg0 B3jp80 Cva040 B4qak0 Ce1ms0 B7pp80 Ccnms0 B3afw0 C2xi840 Bxqqk0 Cbp56s0 B4qak0 Ce1ms0 B45x80 Cd2g40 B51ek0 Cc8tg0 B64ak0 Ce1sc0 B47uo0 C1leo0 B23xc0 Casw00 B3lmo0 C1qyo0 B40g00 C7x6o0 B4mo00 C1stc0 B4deo0 C7x6o0 B3ylc0 C1stc0 B51hc0 C7x6o0 B3lmo0 C1stc0 B5reo0 C7k800 B2vpc0 C25s00 B64dc0 C7k800 B2iqo0 C1stc0 Bgkao0 C1stc0 Bg7c00 C25s00 Bg7c00 C1stc0 Bg7c00 C25s00 Bg7c00 C1stc0 Bgkao0 C1stc0 Bg7c00 C25s00 Bg7c00 C1stc0 Bgkao0 C1stc0 Bg7c00 C25s00 Bg7c00 C1stc0 Bg7c00 C25s00 Bg7c00 C1stc0 Bgkao0 C1stc0 Bg7c00 C25s00 Bg7c00 C1stc0 Bg7c00 C25s00 Bg7c00 C25s00 Bg7c00 C1stc0 Bg7c00 C25s00 Bg7c00 C1stc0 Bgkao0 C1stc0 Bg7c00 C25s00 Bg7c00 C1stc0 Bg7c00 C25s00 Bg7c00 C25s00 Bg7c00 C1stc0 Bg7c00 C25s00 Bg7c00 C1stc0 Bgkao0 C1stc0 Bg7c00 C25s00 Bg7c00 C1stc0 Bg7c00 C25s00 Bg7c00 C25s00 Bg7c00 C1stc0 Bg7c00 C25s00 Bg7c00 C1stc0 Bgkao0 C1stc0 Bg7c00 C25s00 Bg7c00 C1stc0 Bg7c00 C25s00 Bg7c00 C25s00 Bg7c00 C1stc0 Bg7c00 C25s00 Bg7c00 C1stc0 Bgkao0 C1stc0 Bg7c00 C25s00 Bg7c00 C1stc0 Bg7c00 C25s00 Bg7c00 C25s00 Bg7c00 C1stc0 Bg7c00 C25s00 Bg7c00 C1stc0 Bgkao0 C1stc0 Bg7c00 C25s00 Bg7c00 C1stc0 Bg7c00 C25s00 Bg7c00 C25s00 Bg7c00 C1stc0 Bg7c00 C25s00 Bg7c00 C1stc0 Bgkao0 C1stc0 Bg7c00 C25s00 Bg7c00 C1stc0 Bg7c00 C25s00 Bg7c00 C1stc0 Bgkao0 C1stc0 Bg7c00 C25s00 Bg7c00 C1stc0 Bgkao0 C1stc0 Bg7c00 C25s00
Africa/Ceuta|LMT/-1276 WET/0 WEST/3600 CET/3600 CEST/7200|CET-1CEST,M3.5.0,M10.5.0/3|B-100edc0 C91vek0 B7x3w0 C2vt440 B8sqs0 Cssyk0 B8n6s0 C9px80 B905g0 Ca2yo0 B902o0 Ck69dc0 B657w0 C3ifxg0 B3jp80 Cva040 B4qak0 Ce1ms0 B7pp80 Ccnms0 B3afw0 D2xi840 E129us0 D9d1c0 E9d1c0 D9d1c0 E9d1c0 D9d1c0 E9d1c0 D9d1c0 E9d1c0 D9q000 E9d1c0 D9d1c0 E9d1c0 D9d1c0 E9d1c0 D9d1c0 E9d1c0 D9d1c0 E9d1c0 D9d1c0 E9q000
Africa/Conakry|LMT/-3292 GMT/0 -01/-3600|GMT0|B-u9resk Cbk944k Bdhlk40
Africa/Dakar|LMT/-4184 -01/-3600 GMT/0|GMT0|B-u9re3s Cfcoa7s
Africa/Dar_es_Salaam|LMT/9428 EAT/10800 +0245/9900|EAT-3|B-kcrtxw C8ve49w B6sagp0
Africa/Djibouti|LMT/10356 EAT/10800|EAT-3|B-uj8fzo
Africa/Douala|LMT/2328 WAT/3600|WAT-1|B-u9rj4o
Africa/El_Aaiun|LMT/-3168 -01/-3600 +00/0 +01/3600|<+00>0<+01>,0/0,J365/25|B-isdxk0 Cm2g0c0 Dvek0 C4qak0 De1ms0 C7pp80 Dcnms0 C3afw0 Dfke5g0 C4qak0 De1ms0 C45x80 Dd2g40 C51ek0 Dc8tg0 C64ak0 De1sc0 C47uo0 D1leo0 C23xc0 Dasw00 C3lmo0 D1qyo0 C40g00 D7x6o0 C4mo00 D1stc0 C4deo0 D7x6o0 C3ylc0 D1stc0 C51hc0 D7x6o0 C3lmo0 D1stc0 C5reo0 D7k800 C2vpc0 D25s00 C64dc0 D7k800 C2iqo0 D1stc0 Cgkao0 D1stc0 Cg7c00 D25s00 Cg7c00 D1stc0 Cg7c00 D25s00 Cg7c00 D1stc0 Cgkao0 D1stc0 Cg7c00 D25s00 Cg7c00 D1stc0 Cgkao0 D1stc0 Cg7c00 D25s00 Cg7c00 D1stc0 Cg7c00 D25s00 Cg7c00 D1stc0 Cgkao0 D1stc0 Cg7c00 D25s00 Cg7c00 D1stc0 Cg7c00 D25s00 Cg7c00 D25s00 Cg7c00 D1stc0 Cg7c00 D25s00 Cg7c00 D1stc0 Cgkao0 D1stc0 Cg7c00 D25s00 Cg7c00 D1stc0 Cg7c00 D25s00 Cg7c00 D25s00 Cg7c00 D1stc0 Cg7c00 D25s00 Cg7c00 D1stc0 Cgkao0 D1stc0 Cg7c00 D25s00 Cg7c00 D1stc0 Cg7c00 D25s00 Cg7c00 D25s00 Cg7c00 D1stc0 Cg7c00 D25s00 Cg7c00 D1stc0 Cgkao0 D1stc0 Cg7c00 D25s00 Cg7c00 D1stc0 Cg7c00 D25s00 Cg7c00 D25s00 Cg7c00 D1stc0 Cg7c00 D25s00 Cg7c00 D1stc0 Cgkao0 D1stc0 Cg7c00 D25s00 Cg7c00 D1stc0 Cg7c00 D25s00 Cg7c00 D25s00 Cg7c00 D1stc0 Cg7c00 D25s00 Cg7c00 D1stc0 Cgkao0 D1stc0 Cg7c00 D25s00 Cg7c00 D1stc0 Cg7c00 D25s00 Cg7c00 D25s00 Cg7c00 D1stc0 Cg7c00 D25s00 Cg7c00 D1stc0 Cgkao0 D1stc0 Cg7c00 D25s00 Cg7c00 D1stc0 Cg7c00 D25s00 Cg7c00 D1stc0 Cgkao0 D1stc0 Cg7c00 D25s00 Cg7c00 D1stc0 Cgkao0 D1stc0 Cg7c00 D25s00
Africa/Freetown|LMT/-3180 FMT/-3180 -01/-3600 -0040/-2400 GMT/0|GMT0|B-19xcavo Cgfpuo0 Da4v6zo C681qo D7vcxc Cawkeo D7vcxc Cawkeo D7vcxc Cayf2o D7vcxc Cawkeo D7vcxc Cawkeo D7vcxc Ce1j2o D4qe9c C7dqo E16dy9c
Africa/Gaborone|LMT/6220 SAST/5400 CAT/7200 CAST/10800|CAT-2|B-18cyvgs C9h5hys Dl5xqu0 C9cyk0
Africa/Harare|LMT/7452 CAT/7200|CAT-2|B-yvtf30
Africa/Johannesburg|LMT/6720 SAST/5400 SAST/7200 SAST/10800|SAST-2|B-14nj6io C5rpt0o Dkn7o60 C9cyk0 D9d440 C9cyk0
Africa/Juba|LMT/7588 CAT/7200 CAST/10800 EAT/10800|CAT-2|B-kcrsis Ckixuys B8l6k0 Ca4w40 B8n180 Ca6qs0 B8n180 Ca31g0 B8ovw0 Ca16s0 B8qqk0 C9zc40 B8sl80 C9xhg0 B8wak0 C9ts40 B8y580 Ca4w40 B8n180 Ca31g0 B8ovw0 Ca16s0 B8sl80 C9xhg0 B8ufw0 C9vms0 B8wak0 C9ts40 B8y580 Ca4w40 B8ovw0 Ca16s0 B8qqk0 D7frw40 Bazg180
Africa/Kampala|LMT/7780 EAT/10800 +0230/9000 +0245/9900|EAT-3|B-lnse04 Cs8lo4 D9e6420 B4p4vb0
Africa/Khartoum|LMT/7808 CAT/7200 CAST/10800 EAT/10800|CAT-2|B-kcrsow Ckixv4w B8l6k0 Ca4w40 B8n180 Ca6qs0 B8n180 Ca31g0 B8ovw0 Ca16s0 B8qqk0 C9zc40 B8sl80 C9xhg0 B8wak0 C9ts40 B8y580 Ca4w40 B8n180 Ca31g0 B8ovw0 Ca16s0 B8sl80 C9xhg0 B8ufw0 C9vms0 B8wak0 C9ts40 B8y580 Ca4w40 B8ovw0 Ca16s0 B8qqk0 D7frw40 B9ac180
Africa/Kigali|LMT/7216 CAT/7200|CAT-2|B-i1ulkg
Africa/Kinshasa|LMT/3672 WAT/3600|WAT-1|B-11ngdi0
Africa/Lagos|LMT/815 GMT/0 +0030/1800 WAT/3600|WAT-1|B-xnxnan A1kdnan C2ve7dd D2yfgkn
Africa/Libreville|LMT/2268 WAT/3600|WAT-1|B-u9rj30
Africa/Lome|LMT/292 GMT/0|GMT0|B-146nmw4
Africa/Luanda|LMT/3176 LMT/3124 WAT/3600|WAT-1|B-14phh48 Cafpx08
Africa/Lubumbashi|LMT/6592 WAT/3600 CAT/7200|CAT-2|B-11ngfr4 Cbpwyb4
Africa/Lusaka|LMT/6788 CAT/7200|CAT-2|B-yvtekk
Africa/Malabo|LMT/2108 GMT/0 WAT/3600|WAT-1|B-u9riyk Cr44sak
Africa/Maputo|LMT/7818 CAT/7200|CAT-2|B-vu3fd6
Africa/Maseru|LMT/6600 SAST/7200 SAST/10800|SAST-2|B-yvtefc Cl5xrrc B9cyk0
Africa/Mbabane|LMT/7464 SAST/7200|SAST-2|B-yvtf3c
Africa/Mogadishu|LMT/10888 EAT/10800 +0230/9000|EAT-3|B-13r0weg Cje91eg Bdkj2q0
Africa/Monrovia|LMT/-2588 MMT/-2588 MMT/-2670 GMT/0|GMT0|B-19xcbc4 Cje5c00 Drl202a
Africa/Ndjamena|LMT/3612 WAT/3600 WAST/7200|WAT-1|B-u9rk4c Czdk5cc B7iak0
Africa/Niamey|LMT/508 -01/-3600 GMT/0 WAT/3600|WAT-1|B-u9rhq4 Cbk99u4 Ddhlek0
Africa/Nouakchott|LMT/-3828 GMT/0 -01/-3600|GMT0|B-u9redo Cbk93po Bdyodg0
Africa/Ouagadougou|LMT/-364 GMT/0|GMT0|B-u9rh1w
Africa/Porto-Novo|LMT/628 GMT/0 WAT/3600|WAT-1|B-u9rhtg Cbk975g
Africa/Sao_Tome|LMT/1616 LMT/-2205 GMT/0 WAT/3600|GMT0|B-18vsjww Cem12kw D1jbm840 Cirxc0
Africa/Tripoli Libya|LMT/3164 CET/3600 CEST/7200 EET/7200|EET-2|B-q3gfrw Cgl6ajw B422c0 Cxado0 B4bbo0 Cwrpg0 B4s580 D1kdpg0 Bc05bw0 C4mqs0 B9et80 C9d440 B9et80 C9eys0 B9et80 C9mdg0 B95jw0 C9io40 B9cyk0 C99es0 B9et80 C9eys0 B9et80 C9d440 B9et80 Db2840 B3cf3w0 C9kis0 D9et80 B7vqyw0 C75eo0 Dasw00
Africa/Tunis|LMT/2444 PMT/561 CET/3600 CEST/7200|CET-1|B-1a9dr7w Cfke44b Denxevl Cb5uo0 D53c00 Cu8w00 D7x9g0 Cc8w80 D7k800 Cz3w0 Dew40 C8bx80 D9d440 C9nx00 D925o0 C8l100 Dgi3440 C7k800 Db9k00 C7vc00 D51mw00 C5ytc0 D9d1c0 C9d1c0 Db9k00 C7thc0 D7m0tc0 C7tk40 D93us0 Cb5uo0 D7k800 Cb5uo0 D7x6o0 Casw00
Africa/Windhoek|LMT/4104 +0130/5400 SAST/7200 SAST/10800 CAT/7200 WAT/3600|CAT-2|B-14nj4i0 C5rpr00 Dkn7o60 C9cyk0 Eoj2nw0 F235k00 E8lho0 Fast80 E7x9g0 Fb5rw0 E7kas0 Fb5rw0 E7x9g0 Fast80 E7x9g0 Fast80 E7x9g0 Fast80 E7x9g0 Fast80 E7x9g0 Fb5rw0 E7kas0 Fb5rw0 E7x9g0 Fast80 E7x9g0 Fast80 E7x9g0 Fast80 E7x9g0 Fast80 E7x9g0 Fb5rw0 E7x9g0 Fast80 E7x9g0 Fast80 E7x9g0 Fast80 E7x9g0 Fast80 E7x9g0 Fb5rw0 E7kas0 Fb5rw0 E7x9g0 Fast80 E7x9g0 Fast80 E7x9g0 Fast80 E7x9g0
America/Adak America/Atka US/Aleutian|LMT/44002 LMT/-42398 NST/-39600 NWT/-36000 NPT/-36000 BST/-39600 BDT/-36000 AHST/-36000 HST/-36000 HDT/-32400|HST10HDT,M3.2.0,M11.1.0|B-1hc7qjz Ch4z1xp Dln70qa E1tyug0 C2e6s0 Fb7yik0 G12y080 F9cyk0 G9d440 F9cyk0 G9d440 F9px80 G9d440 F9cyk0 G9d440 F9cyk0 G3lpg0 Ff4d80 G64g40 Fclmk0 G9d440 F9px80 G905g0 F9px80 G9d440 F9cyk0 G9d440 F9cyk0 G9d440 F9cyk0 G9d440 F9cyk0 G9d440 F9px80 G905g0 H9px80 I1l940 J7rs80 I9cyk0 J9d440 I9cyk0 J9d440 I9cyk0 J8a840 Iafuk0 J8a840 Iast80 J7x9g0 Iast80 J7x9g0 Iast80 J8a840 Iafuk0 J8a840 Iafuk0 J8a840 Iast80 J7x9g0 Iast80 J7x9g0 Iast80 J8a840 Iafuk0 J8a840 Iafuk0 J8a840 Iafuk0 J8a840 Iast80 J7x9g0 Iast80 J7x9g0 Iast80 J8a840 Iafuk0 J8a840 Iafuk0 J8a840 Iast80 J7x9g0 Iast80 J7x9g0 Iast80 J6udg0
America/Anchorage US/Alaska|LMT/50424 LMT/-35976 AST/-36000 AWT/-32400 APT/-32400 AHST/-36000 AHDT/-32400 YST/-32400 AKST/-32400 AKDT/-28800|AKST9AKDT,M3.2.0,M11.1.0|B-1hc7qjz Ch4ywzb Dln72wo E1tyx80 C2e400 Fb7yik0 G12y080 F9cyk0 G9d440 F9cyk0 G9d440 F9px80 G9d440 F9cyk0 G9d440 F9cyk0 G3lpg0 Ff4d80 G64g40 Fclmk0 G9d440 F9px80 G905g0 F9px80 G9d440 F9cyk0 G9d440 F9cyk0 G9d440 F9cyk0 G9d440 F9cyk0 G9d440 F9px80 G905g0 H9px80 I1l940 J7rs80 I9cyk0 J9d440 I9cyk0 J9d440 I9cyk0 J8a840 Iafuk0 J8a840 Iast80 J7x9g0 Iast80 J7x9g0 Iast80 J8a840 Iafuk0 J8a840 Iafuk0 J8a840 Iast80 J7x9g0 Iast80 J7x9g0 Iast80 J8a840 Iafuk0 J8a840 Iafuk0 J8a840 Iafuk0 J8a840 Iast80 J7x9g0 Iast80 J7x9g0 Iast80 J8a840 Iafuk0 J8a840 Iafuk0 J8a840 Iast80 J7x9g0 Iast80 J7x9g0 Iast80 J6udg0
America/Anguilla|LMT/-15136 AST/-14400|AST4|B-u6m6zk
America/Antigua|LMT/-14832 EST/-18000 AST/-14400|AST4|B-u6m780 Ck9mqg0
America/Araguaina|LMT/-11568 -03/-10800 -02/-7200|<-03>3|B-t85j2o C99k8mo B9a9c0 C9io40 B99980 C8p65g0 B6zuo0 Cbs2o0 B67zw0 Ccjxg0 B69uk0 Ccjxg0 B4ml80 C5mf440 B49mk0 Chaas0 B316k0 Ccls40 B4ml80 Ccls40 B66580 Ccls40 B67zw0 C981s40 B6u7w0 Cbiw40 B5rbw0 Cd0lg0 B5ed80 Ccyqs0 B5ed80 Cdbpg0 B64ak0 C2yl440 B64ak0 Cc8tg0 B6u7w0 Cbxpg0 B7iak0 Cbiw40 B6u7w0 Cbiw40 B7k580 Cbiw40 B6u7w0 Cc8tg0 B6h980 Cdbpg0 B5ed80 C51udg0 B64ak0
America/Argentina/Buenos_Aires America/Buenos_Aires|LMT/-14028 CMT/-15408 -04/-14400 -03/-10800 -02/-7200|<-03>3|B-138aaic Cdb2bqc D5iv8k0 C67zw0 Da4w40 C73h80 Dcls40 C66580 Dcls40 C66580 Dcls40 C66580 Dcls40 C67zw0 Dcls40 C66580 Dcls40 C66580 Dcls40 C66580 Dcls40 C67zw0 D6a040 Chy7w0 D6a040 Cxovw0 D3uys0 C18nbw0 Db0dg0 C8ve2k0 D3uys0 C3yik0 Dbqas0 C71mk0 Dbqas0 C71mk0 Dbqas0 C8ovw0 D9d440 C9px80 D9d440 C9cyk0 D9d440 E28t6k0 D51ek0 E7m2qs0 D4tzw0 Ebiw40 D776k0 Ebvus0 D6u7w0 Ebvus0 D6u7w0 Ebvus0 D776k0 E7qcg40 D3yik0 Eb5xg0 D7k580
America/Argentina/Catamarca America/Argentina/ComodRivadavia America/Catamarca|LMT/-15788 CMT/-15408 -04/-14400 -03/-10800 -02/-7200|<-03>3|B-138a95g Cdb2adg D5iv8k0 C67zw0 Da4w40 C73h80 Dcls40 C66580 Dcls40 C66580 Dcls40 C66580 Dcls40 C67zw0 Dcls40 C66580 Dcls40 C66580 Dcls40 C66580 Dcls40 C67zw0 D6a040 Chy7w0 D6a040 Cxovw0 D3uys0 C18nbw0 Db0dg0 C8ve2k0 D3uys0 C3yik0 Dbqas0 C71mk0 Dbqas0 C71mk0 Dbqas0 C8ovw0 D9d440 C9px80 D9d440 C9cyk0 D9d440 E28t6k0 D51ek0 E7m2qs0 D4tzw0 Ebiw40 D776k0 Ebvus0 C6u7w0 Ebvxk0 D6u540 Ebvus0 D776k0 C5v42s0 Dz9g0 E1u93w0 D3yik0
America/Argentina/Cordoba America/Cordoba America/Rosario|LMT/-15408 CMT/-15408 -04/-14400 -03/-10800 -02/-7200|<-03>3|B-138a9g0 Cdb2ao0 D5iv8k0 C67zw0 Da4w40 C73h80 Dcls40 C66580 Dcls40 C66580 Dcls40 C66580 Dcls40 C67zw0 Dcls40 C66580 Dcls40 C66580 Dcls40 C66580 Dcls40 C67zw0 D6a040 Chy7w0 D6a040 Cxovw0 D3uys0 C18nbw0 Db0dg0 C8ve2k0 D3uys0 C3yik0 Dbqas0 C71mk0 Dbqas0 C71mk0 Dbqas0 C8ovw0 D9d440 C9px80 D9d440 C9cyk0 D9d440 E28t6k0 D51ek0 E7m2qs0 D4tzw0 Ebiw40 D776k0 Ebvus0 C6u7w0 Ebvxk0 D6u540 Ebvus0 D776k0 E7qcg40 D3yik0 Eb5xg0 D7k580
America/Argentina/Jujuy America/Jujuy|LMT/-15672 CMT/-15408 -04/-14400 -03/-10800 -02/-7200|<-03>3|B-138a98o Cdb2ago D5iv8k0 C67zw0 Da4w40 C73h80 Dcls40 C66580 Dcls40 C66580 Dcls40 C66580 Dcls40 C67zw0 Dcls40 C66580 Dcls40 C66580 Dcls40 C66580 Dcls40 C67zw0 D6a040 Chy7w0 D6a040 Cxovw0 D3uys0 C18nbw0 Db0dg0 C8ve2k0 D3uys0 C3yik0 Dbqas0 C71mk0 Dbqas0 C71mk0 Dbqas0 C8ovw0 D9d440 C9px80 D9d440 C9cyk0 D9d440 E28t6k0 D51ek0 E7m2qs0 D4tzw0 Ebiw40 C776k0 Dc8w80 C776k0 Eag040 D7k2g0 Ebvus0 D776k0 E7qcg40 D3yik0
America/Argentina/La_Rioja|LMT/-16044 CMT/-15408 -04/-14400 -03/-10800 -02/-7200|<-03>3|B-138a8yc Cdb2a6c D5iv8k0 C67zw0 Da4w40 C73h80 Dcls40 C66580 Dcls40 C66580 Dcls40 C66580 Dcls40 C67zw0 Dcls40 C66580 Dcls40 C66580 Dcls40 C66580 Dcls40 C67zw0 D6a040 Chy7w0 D6a040 Cxovw0 D3uys0 C18nbw0 Db0dg0 C8ve2k0 D3uys0 C3yik0 Dbqas0 C71mk0 Dbqas0 C71mk0 Dbqas0 C8ovw0 D9d440 C9px80 D9d440 C9cyk0 D9d440 E28t6k0 D51ek0 E7m2qs0 D4tzw0 Ebiw40 D776k0 Ebvus0 C6qik0 D3g880 E8jbw0 D6u7w0 Ebvus0 D776k0 C5v42s0 Dz9g0 E1u93w0 D3yik0
America/Argentina/Mendoza America/Mendoza|LMT/-16516 CMT/-15408 -04/-14400 -03/-10800 -02/-7200|<-03>3|B-138a8l8 Cdb29t8 D5iv8k0 C67zw0 Da4w40 C73h80 Dcls40 C66580 Dcls40 C66580 Dcls40 C66580 Dcls40 C67zw0 Dcls40 C66580 Dcls40 C66580 Dcls40 C66580 Dcls40 C67zw0 D6a040 Chy7w0 D6a040 Cxovw0 D3uys0 C18nbw0 Db0dg0 C8ve2k0 D3uys0 C3yik0 Dbqas0 C71mk0 Dbqas0 C71mk0 Dbqas0 C8ovw0 D9d440 C9px80 D9d440 C9cyk0 D9d440 E28t6k0 D51ek0 E7m2qs0 D4tzw0 Ebiw40 C776k0 Dbktk0 C71mk0 Dbqas0 C73h80 Ebvus0 D773s0 C5unes0 D6hes0 E1p7mk0 D3yik0
America/Argentina/Rio_Gallegos|LMT/-16612 CMT/-15408 -04/-14400 -03/-10800 -02/-7200|<-03>3|B-138a8ik Cdb29qk D5iv8k0 C67zw0 Da4w40 C73h80 Dcls40 C66580 Dcls40 C66580 Dcls40 C66580 Dcls40 C67zw0 Dcls40 C66580 Dcls40 C66580 Dcls40 C66580 Dcls40 C67zw0 D6a040 Chy7w0 D6a040 Cxovw0 D3uys0 C18nbw0 Db0dg0 C8ve2k0 D3uys0 C3yik0 Dbqas0 C71mk0 Dbqas0 C71mk0 Dbqas0 C8ovw0 D9d440 C9px80 D9d440 C9cyk0 D9d440 E28t6k0 D51ek0 E7m2qs0 D4tzw0 Ebiw40 D776k0 Ebvus0 D6u7w0 Ebvus0 D6u7w0 Ebvus0 D776k0 C5v42s0 Dz9g0 E1u93w0 D3yik0
America/Argentina/Salta|LMT/-15700 CMT/-15408 -04/-14400 -03/-10800 -02/-7200|<-03>3|B-138a97w Cdb2afw D5iv8k0 C67zw0 Da4w40 C73h80 Dcls40 C66580 Dcls40 C66580 Dcls40 C66580 Dcls40 C67zw0 Dcls40 C66580 Dcls40 C66580 Dcls40 C66580 Dcls40 C67zw0 D6a040 Chy7w0 D6a040 Cxovw0 D3uys0 C18nbw0 Db0dg0 C8ve2k0 D3uys0 C3yik0 Dbqas0 C71mk0 Dbqas0 C71mk0 Dbqas0 C8ovw0 D9d440 C9px80 D9d440 C9cyk0 D9d440 E28t6k0 D51ek0 E7m2qs0 D4tzw0 Ebiw40 D776k0 Ebvus0 C6u7w0 Ebvxk0 D6u540 Ebvus0 D776k0 E7qcg40 D3yik0
America/Argentina/San_Juan|LMT/-16444 CMT/-15408 -04/-14400 -03/-10800 -02/-7200|<-03>3|B-138a8n8 Cdb29v8 D5iv8k0 C67zw0 Da4w40 C73h80 Dcls40 C66580 Dcls40 C66580 Dcls40 C66580 Dcls40 C67zw0 Dcls40 C66580 Dcls40 C66580 Dcls40 C66580 Dcls40 C67zw0 D6a040 Chy7w0 D6a040 Cxovw0 D3uys0 C18nbw0 Db0dg0 C8ve2k0 D3uys0 C3yik0 Dbqas0 C71mk0 Dbqas0 C71mk0 Dbqas0 C8ovw0 D9d440 C9px80 D9d440 C9cyk0 D9d440 E28t6k0 D51ek0 E7m2qs0 D4tzw0 Ebiw40 D776k0 Ebvus0 C6qik0 D3g880 E8jbw0 D6u7w0 Ebvus0 D776k0 C5v2840 D2txg0 E1sgak0 D3yik0
America/Argentina/San_Luis|LMT/-15924 CMT/-15408 -04/-14400 -03/-10800 -02/-7200|<-03>3|B-138a91o Cdb2a9o D5iv8k0 C67zw0 Da4w40 C73h80 Dcls40 C66580 Dcls40 C66580 Dcls40 C66580 Dcls40 C67zw0 Dcls40 C66580 Dcls40 C66580 Dcls40 C66580 Dcls40 C67zw0 D6a040 Chy7w0 D6a040 Cxovw0 D3uys0 C18nbw0 Db0dg0 C8ve2k0 D3uys0 C3yik0 Dbqas0 C71mk0 Dbqas0 C71mk0 Dbqas0 C8ovw0 D9d440 C9px80 D9d440 C9cyk0 D9d440 E28t6k0 D51ek0 E7m2qs0 D4tzw0 Ebiw40 C7pp80 Db2aw0 C71mk0 D4qg40 C6s8ik0 D2txg0 E1sgak0 D14nw0 C2gys0 Db5xg0 C7k580 Db5xg0
America/Argentina/Tucuman|LMT/-15652 CMT/-15408 -04/-14400 -03/-10800 -02/-7200|<-03>3|B-138a998 Cdb2ah8 D5iv8k0 C67zw0 Da4w40 C73h80 Dcls40 C66580 Dcls40 C66580 Dcls40 C66580 Dcls40 C67zw0 Dcls40 C66580 Dcls40 C66580 Dcls40 C66580 Dcls40 C67zw0 D6a040 Chy7w0 D6a040 Cxovw0 D3uys0 C18nbw0 Db0dg0 C8ve2k0 D3uys0 C3yik0 Dbqas0 C71mk0 Dbqas0 C71mk0 Dbqas0 C8ovw0 D9d440 C9px80 D9d440 C9cyk0 D9d440 E28t6k0 D51ek0 E7m2qs0 D4tzw0 Ebiw40 D776k0 Ebvus0 C6u7w0 Ebvxk0 D6u540 Ebvus0 D776k0 C5v42s0 Dmas0 E1um2k0 D3yik0 Eb5xg0 D7k580
America/Argentina/Ushuaia|LMT/-16392 CMT/-15408 -04/-14400 -03/-10800 -02/-7200|<-03>3|B-138a8oo Cdb29wo D5iv8k0 C67zw0 Da4w40 C73h80 Dcls40 C66580 Dcls40 C66580 Dcls40 C66580 Dcls40 C67zw0 Dcls40 C66580 Dcls40 C66580 Dcls40 C66580 Dcls40 C67zw0 D6a040 Chy7w0 D6a040 Cxovw0 D3uys0 C18nbw0 Db0dg0 C8ve2k0 D3uys0 C3yik0 Dbqas0 C71mk0 Dbqas0 C71mk0 Dbqas0 C8ovw0 D9d440 C9px80 D9d440 C9cyk0 D9d440 E28t6k0 D51ek0 E7m2qs0 D4tzw0 Ebiw40 D776k0 Ebvus0 D6u7w0 Ebvus0 D6u7w0 Ebvus0 D776k0 C5v0dg0 D12ys0 E1u93w0 D3yik0
America/Aruba|LMT/-16824 -0430/-16200 AST/-14400|AST4|B-u7lcco Crlo7io
America/Asuncion|LMT/-13840 AMT/-13840 -04/-14400 -03/-10800|<-03>3|B-15r0ynk Clsruo0 Dldwofk Cs4vw0 Ds6w40 C7tek0 Db0dg0 C7rjw0 Db0dg0 C7rjw0 Db0dg0 C9cyk0 D9eys0 C9et80 D9eys0 C9cyk0 D9eys0 C9cyk0 D9eys0 C9cyk0 D9eys0 C9et80 D9eys0 C9cyk0 D9eys0 C9cyk0 D9eys0 C9cyk0 D9eys0 C9et80 D9eys0 C9cyk0 Dahus0 C8a2k0 D9eys0 C9cyk0 D9o840 C7k580 Db7s40 C93p80 D9gtg0 C7nuk0 Db42s0 C7lzw0 Db5xg0 C7tek0 Db9ms0 C776k0 Dbiw40 C7k580 Db5xg0 C7x3w0 Dasys0 C7x3w0 Dasys0 C7x3w0 Db5xg0 C9cyk0 D7kas0 Cb5rw0 D7x9g0 Cast80 Da31g0 C7k580 Db5xg0 C7k580 Db5xg0 C7k580 Dbiw40 C776k0 Dbiw40 C776k0 Dbiw40 C8zzw0 D905g0 C9px80 D905g0 C9px80 D9d440 C8n180 Da31g0 C8n180 Da31g0 C8n180 Da31g0 C8zzw0 D9q2s0 C8zzw0 D9q2s0 C8zzw0 Da31g0 C8n180 Da31g0 C8n180 Da31g0 C8zzw0 D9q2s0 C8zzw0 D9q2s0 C8zzw0 D9q2s0 C8zzw0 Da31g0
America/Atikokan America/Coral_Harbour|LMT/-21988 CST/-21600 CDT/-18000 CWT/-18000 CPT/-18000 EST/-18000|EST5|B-1353b18 Cc5efx8 Ba2vw0 Cbfxjw0 Dpmdk0 E1tz8c0 F2dsw0
America/Bahia|LMT/-9244 -03/-10800 -02/-7200|<-03>3|B-t85kv8 C99kaf8 B9a9c0 C9io40 B99980 C8p65g0 B6zuo0 Cbs2o0 B67zw0 Ccjxg0 B69uk0 Ccjxg0 B4ml80 C5mf440 B49mk0 Chaas0 B316k0 Ccls40 B4ml80 Ccls40 B66580 Ccls40 B67zw0 C981s40 B6u7w0 Cbiw40 B5rbw0 Cd0lg0 B5ed80 Ccyqs0 B5ed80 Cdbpg0 B64ak0 Ccyqs0 B64ak0 Ccls40 B5rbw0 Cdbpg0 B51ek0 Cdbpg0 B6h980 Cc8tg0 B6h980 Cc8tg0 B64ak0 Cc8tg0 B6u7w0 Cbxpg0 B7iak0 Cbiw40 B6u7w0 Cbiw40 B7k580 Cbiw40 B6u7w0 Cc8tg0 B6h980 Cdbpg0 B5ed80 C4irc40 B6u7w0
America/Bahia_Banderas|LMT/-25260 MST/-25200 CST/-21600 MDT/-21600 CDT/-18000|CST6|B-p1u4k0 C2u5s00 B1si580 D8jhg0 B7x3w0 C9eys0 B591h80 Ds5qoc0 Bafuk0 D8a840 Bafuk0 D8a840 Bafuk0 D8a840 Bast80 D7x9g0 Bast80 D9q2s0 B7k580 D9q2s0 Bafuk0 D8a840 Bafuk0 D8a840 Bast80 D7x9g0 Bast80 D7x9g0 Bast80 D7x9g0 Bast80 D8a840 Bafuk0 D8a840 Bafuk0 E8a840 Casqg0 E7x9g0 Cast80 E7x9g0 Cast80 E8a840 Cafuk0 E8a840 Cafuk0 E8a840 Cafuk0 E8a840 Cast80 E7x9g0 Cast80 E7x9g0 Cast80 E8a840 Cafuk0 E8a840 Cafuk0 E8a840 Cast80 E7x9g0 Cast80
America/Barbados|LMT/-14309 AST/-14400 ADT/-10800 -0330/-12600|AST4|B-ug8iaj Cfzq06j B6w840 Ccjrw0 B6hes0 Db7mk0 B7ves0 Ch3dpc0 B5rbw0 Ca31g0 B8n180 Ca31g0 B8n180 Cag040 B84ik0
America/Belem|LMT/-11636 -03/-10800 -02/-7200|<-03>3|B-t85j0s C99k8ks B9a9c0 C9io40 B99980 C8p65g0 B6zuo0 Cbs2o0 B67zw0 Ccjxg0 B69uk0 Ccjxg0 B4ml80 C5mf440 B49mk0 Chaas0 B316k0 Ccls40 B4ml80 Ccls40 B66580 Ccls40 B67zw0 C981s40 B6u7w0 Cbiw40 B5rbw0 Cd0lg0 B5ed80
America/Belize|LMT/-21168 CST/-21600 -0530/-19800 CWT/-18000 CPT/-18000 CDT/-18000|CST6|B-u52ic0 C3edkc0 B6ham0 Cc8s20 B6u9a0 Cbvte0 B6u9a0 Cbvte0 B6u9a0 Cc8s20 B6ham0 Cc8s20 B6ham0 Cc8s20 B6u9a0 Cbvte0 B6u9a0 Cbvte0 B6u9a0 Cbvte0 B6u9a0 Cc8s20 B6ham0 Cc8s20 B6ham0 Cc8s20 B6u9a0 Cbvte0 B6u9a0 Cbvte0 B6u9a0 Cc8s20 B6ham0 Cc8s20 B6ham0 Cc8s20 B6ham0 Cc8s20 B6u9a0 Cbvte0 B6u9a0 Cbvte0 B6u9a0 Cc8s20 B6ham0 Cc8s20 B6ham0 Cc8s20 B6u9a0 D6uc20 E1mtz80 B6c8o0 Cxulg0 B6u9a0 Cbvte0 B6u9a0 Cbvte0 B6u9a0 Cc8s20 B6ham0 Cc8s20 B6ham0 Cc8s20 B6u9a0 Cbvte0 B6u9a0 Cbvte0 B6u9a0 Cbvte0 B6u9a0 Cc8s20 B6ham0 Cc8s20 B6ham0 Cc8s20 B6u9a0 Cbvte0 B6u9a0 Cbvte0 B6u9a0 Cc8s20 B6ham0 Cc8s20 B6ham0 Cc8s20 B6ham0 Cc8s20 B6u9a0 Cbvte0 B6u9a0 Cbvte0 B6u9a0 Cc8s20 B6ham0 F319de0 B3e580 F4mcys0 B2vmk0
America/Blanc-Sablon|LMT/-13708 AST/-14400 ADT/-10800 AWT/-10800 APT/-10800|AST4|B-18vs838 Chw37f8 Ba2vw0 Dc5jxg0 E1tzdw0 B2dnc0
America/Boa_Vista|LMT/-14560 -04/-14400 -03/-10800|<-04>4|B-t85grk C99k93k B9a9c0 C9io40 B99980 C8p65g0 B6zuo0 Cbs2o0 B67zw0 Ccjxg0 B69uk0 Ccjxg0 B4ml80 C5mf440 B49mk0 Chaas0 B316k0 Ccls40 B4ml80 Ccls40 B66580 Ccls40 B67zw0 C981s40 B6u7w0 Cbiw40 B5rbw0 Cd0lg0 B5ed80 C62xk40 B7k580 Cbiw40 Bcvw0
America/Bogota|LMT/-17776 BMT/-17776 -05/-18000 -04/-14400|<-05>5|B-18s2sy8 Cg0p400 D14f1hi8 Ceefw0
America/Boise|LMT/-27889 PST/-28800 PDT/-25200 MST/-25200 MWT/-21600 MPT/-21600 MDT/-21600|MST7MDT,M3.2.0,M11.1.0|B-18y0gg0 Chxltk0 Bast80 C7x9g0 Bast80 D1um840 E9s7jw0 F1tz5k0 D2dvo0 Gb9gdg0 D9cyk0 G9d440 D9cyk0 G9d440 D9cyk0 G9d440 D9cyk0 G9d440 D9px80 G9d440 D9cyk0 G9d440 D9cyk0 G51k40 Ddoik0 G64g40 Dclmk0 G9d440 D9px80 G905g0 D9px80 G9d440 D9cyk0 G9d440 D9cyk0 G9d440 D9cyk0 G9d440 D9cyk0 G9d440 D9px80 G905g0 D9px80 G9d440 D9cyk0 G9d440 D9cyk0 G9d440 D9cyk0 G8a840 Dafuk0 G8a840 Dast80 G7x9g0 Dast80 G7x9g0 Dast80 G8a840 Dafuk0 G8a840 Dafuk0 G8a840 Dast80 G7x9g0 Dast80 G7x9g0 Dast80 G8a840 Dafuk0 G8a840 Dafuk0 G8a840 Dafuk0 G8a840 Dast80 G7x9g0 Dast80 G7x9g0 Dast80 G8a840 Dafuk0 G8a840 Dafuk0 G8a840 Dast80 G7x9g0 Dast80 G7x9g0 Dast80 G6udg0
America/Cambridge_Bay|-00/0 MST/-25200 MWT/-21600 MPT/-21600 MDT/-21600 CST/-21600 CDT/-18000 EST/-18000|MST7MDT,M3.2.0,M11.1.0|B-q3gdc0 Cbjeec0 D1tz5k0 B2dvo0 Edvfpg0 B9cyk0 E9d440 B9cyk0 E9d440 B9cyk0 E9d440 B9cyk0 E9d440 B9px80 E905g0 B9px80 E9d440 B9cyk0 E9d440 B9cyk0 E9d440 B9cyk0 E9d440 B9cyk0 E9d440 B9px80 E905g0 B9px80 E9d440 B9cyk0 E9d440 B9cyk0 E9d440 B9cyk0 E8a840 Bafuk0 E8a840 Bast80 E7x9g0 Bast80 E7x9g0 Bast80 E8a840 Bafuk0 E8a840 Bafuk0 E8a840 Bast80 E7x9g0 Bast80 E7x9g0 Bast80 E8a840 Bafuk0 E8a840 Bafuk0 E8a840 Bafuk0 E8a840 Fast80 G7x6o0 Hast80 Fct40 E7kj40 Bast80 E8a840 Bafuk0 E8a840 Bafuk0 E8a840 Bast80 E7x9g0 Bast80 E7x9g0 Bast80 E6udg0
America/Campo_Grande|LMT/-13108 -04/-14400 -03/-10800|<-04>4|B-t85hvw C99ka7w B9a9c0 C9io40 B99980 C8p65g0 B6zuo0 Cbs2o0 B67zw0 Ccjxg0 B69uk0 Ccjxg0 B4ml80 C5mf440 B49mk0 Chaas0 B316k0 Ccls40 B4ml80 Ccls40 B66580 Ccls40 B67zw0 C981s40 B6u7w0 Cbiw40 B5rbw0 Cd0lg0 B5ed80 Ccyqs0 B5ed80 Cdbpg0 B64ak0 Ccyqs0 B64ak0 Ccls40 B5rbw0 Cdbpg0 B51ek0 Cdbpg0 B6h980 Cc8tg0 B6h980 Cc8tg0 B64ak0 Cc8tg0 B6u7w0 Cbxpg0 B7iak0 Cbiw40 B6u7w0 Cbiw40 B7k580 Cbiw40 B6u7w0 Cc8tg0 B6h980 Cdbpg0 B5ed80 Ccls40 B64ak0 Cdfes0 B5nmk0 Cc8tg0 B6h980 Cdbpg0 B5rbw0 Cbvus0 B6h980 Ccls40 B64ak0 Ccls40 B6h980 Cc8tg0 B6h980 Cc8tg0 B6u7w0 Cc8tg0 B64ak0 Ccls40 B64ak0 Ccls40 B6h980 Cc8tg0 B6h980 Cc8tg0 B6h980 Cc8tg0 B6h980 Cdbpg0 B5ed80
America/Cancun|LMT/-20824 CST/-21600 EST/-18000 CDT/-18000 EDT/-14400|EST5|B-p1u7c0 Cvb0dk0 Bj8d00 D6x2wc0 Bafuk0 D8a840 Cafuk0 E8a5c0 D64ak0 B4bms0 D8a840 Bast80 D7x9g0 Bast80 D9q2s0 B7k580 D9q2s0 Bafuk0 D8a840 Bafuk0 D8a840 Bast80 D7x9g0 Bast80 D7x9g0 Bast80 D7x9g0 Bast80 D8a840 Bafuk0 D8a840 Bafuk0 D8a840 Bast80 D7x9g0 Bast80 D7x9g0 Bast80 D8a840 Bafuk0 D8a840 Bafuk0 C51k40
America/Caracas|LMT/-16064 CMT/-16060 -0430/-16200 -04/-14400|<-04>4|B-15r0wxs Cbjfjzw Drlo83w Cmeoxm0 D4dps00
America/Cayenne|LMT/-12560 -04/-14400 -03/-10800|<-03>3|B-uj7yb4 Ctcw6r4
America/Cayman|LMT/-19532 KMT/-18430 EST/-18000|EST5|B-15r0u9g Cbiv5te
America/Chicago US/Central|LMT/-21036 CST/-21600 CDT/-18000 EST/-18000 CWT/-18000 CPT/-18000|CST6CDT,M3.2.0,M11.1.0|B-18y0m00 Chxltk0 Bast80 C7x9g0 Bast80 Cbvus0 B776k0 C7kas0 Bb5rw0 C9d440 B7k580 Cb5xg0 B7x3w0 Casys0 B7x3w0 Casys0 B7x3w0 Casys0 B7x3w0 Casys0 B7x3w0 Cb5xg0 B7x3w0 Casys0 B7x3w0 Casys0 B7x3w0 Casys0 B7x3w0 Casys0 B7x3w0 Cb5xg0 B7k580 Cb5xg0 B7x3w0 Casys0 B7x3w0 D7x9g0 Bdbjw0 C8a840 B7x3w0 Casys0 B7x3w0 Cb5xg0 B7k580 Cb5xg0 B7x3w0 Casys0 B7x3w0 E6w840 F1tz8c0 B2dsw0 Casys0 B7x3w0 Casys0 B7x3w0 Casys0 B7x3w0 Casys0 B7x3w0 Cb5xg0 B7k580 Cb5xg0 B7x3w0 Casys0 B7x3w0 Casys0 B7x3w0 Casys0 B7x3w0 Casys0 B9px80 C9d440 B9cyk0 C9d440 B9cyk0 C9d440 B9cyk0 C9d440 B9cyk0 C9d440 B9px80 C9d440 B9cyk0 C9d440 B9cyk0 C9d440 B9cyk0 C9d440 B9cyk0 C9d440 B9px80 C905g0 B9px80 C9d440 B9cyk0 C9d440 B9cyk0 C9d440 B9cyk0 C9d440 B9cyk0 C9d440 B9px80 C9d440 B9cyk0 C9d440 B9cyk0 C3lpg0 Bf4d80 C64g40 Bclmk0 C9d440 B9px80 C905g0 B9px80 C9d440 B9cyk0 C9d440 B9cyk0 C9d440 B9cyk0 C9d440 B9cyk0 C9d440 B9px80 C905g0 B9px80 C9d440 B9cyk0 C9d440 B9cyk0 C9d440 B9cyk0 C8a840 Bafuk0 C8a840 Bast80 C7x9g0 Bast80 C7x9g0 Bast80 C8a840 Bafuk0 C8a840 Bafuk0 C8a840 Bast80 C7x9g0 Bast80 C7x9g0 Bast80 C8a840 Bafuk0 C8a840 Bafuk0 C8a840 Bafuk0 C8a840 Bast80 C7x9g0 Bast80 C7x9g0 Bast80 C8a840 Bafuk0 C8a840 Bafuk0 C8a840 Bast80 C7x9g0 Bast80 C7x9g0 Bast80 C6udg0
America/Chihuahua|LMT/-25460 MST/-25200 CST/-21600 MDT/-21600 CDT/-18000|CST6|B-p1u4k0 C2u5s00 B1si580 D8jhg0 B7x3w0 C9eys0 Exes2s0 Cafuk0 E8a840 Cafuk0 D8aaw0 Bafuk0 D8a840 Bast80 D7x9g0 Bast80 D9q2s0 B7k580 D9q2s0 Bafuk0 D8a840 Bafuk0 D8a840 Bast80 D7x9g0 Bast80 D7x9g0 Bast80 D7x9g0 Bast80 D8a840 Bafuk0 D8a840 Bafuk0 D8a840 Bast80 D7x9g0 Bast80 D7x9g0 Bast80 D8a840 Bafuk0 D8a840 Bafuk0 D8a840 Bafuk0 D8a840 Bast80 D7x9g0 Bast80 D7x9g0 Bast80 D8a840 Bafuk0 D8a840 Bafuk0 D8a840 Bast80 D7x9g0 Cast80
America/Ciudad_Juarez|LMT/-25556 MST/-25200 CST/-21600 MDT/-21600 CDT/-18000|MST7MDT,M3.2.0,M11.1.0|B-p1u4k0 C2u5s00 B1si580 D8jhg0 B7x3w0 C9eys0 Exes2s0 Cafuk0 E8a840 Cafuk0 D8aaw0 Bafuk0 D8a840 Bast80 D7x9g0 Bast80 D9q2s0 B7k580 D9q2s0 Bafuk0 D8a840 Bafuk0 D8a840 Bast80 D7x9g0 Bast80 D7x9g0 Bast80 D7x9g0 Bast80 D8a840 Bafuk0 D8a840 Bafuk0 D77c40 Bc8nw0 D6hes0 Bc8nw0 D6hes0 Bc8nw0 D6hes0 Bc8nw0 D6hes0 Bc8nw0 D6hes0 Bc8nw0 D6udg0 Bc8nw0 D6hes0 Bc8nw0 D6hes0 Bc8nw0 D6hes0 Bc8nw0 D6hes0 Bc8nw0 D6udg0 Bc8nw0 D6hes0 Cbvp80 B1l940
America/Costa_Rica|LMT/-20173 SJMT/-20173 CST/-21600 CDT/-18000|CST6|B-15r0trn Cg74lc0 Dubtl3n C51ek0 Ddoo40 C51ek0 D5jso40 C8drw0 Dacas0 C2xh80
America/Coyhaique|LMT/-17296 SMT/-16965 -05/-18000 -04/-14400 -03/-10800|<-03>3|B-15r0vzk Cag6l2t B3dlssr D157b79 Bf4e0r D49hzb9 Caye0r D7ves0 Cawik0 D7ves0 Cawik0 D7ves0 Cawik0 D7ves0 Cayd80 D7ves0 C534ik0 D351g0 C2fnh80 D2mg00 Eb73400 D7k580 Ec8tg0 D6h980 Ea31g0 D7x3w0 Easys0 D7x3w0 Eb5xg0 D7k580 Eag040 D8a2k0 Eb5xg0 D7k580 Eb5xg0 D7x3w0 Easys0 D7x3w0 Easys0 D7x3w0 Eb5xg0 D7k580 Eb5xg0 D7k580 Eb5xg0 D7x3w0 Easys0 D7x3w0 Easys0 D7x3w0 Easys0 D7x3w0 Eb5xg0 D7k580 Eb5xg0 D7k580 Eb5xg0 D9cyk0 E9d440 D7x3w0 Easys0 D7x3w0 Eb5xg0 D7k580 E9q2s0 D8zzw0 Eb5xg0 D7x3w0 Easys0 D7x3w0 Easys0 D7x3w0 Easys0 D7x3w0 Eb5xg0 D7k580 Eb5xg0 D8n180 Ea31g0 D7x3w0 Ea31g0 D9px80 E9q2s0 D7x3w0 Eb5xg0 D7k580 Eb5xg0 D7k580 Eb5xg0 D7k580 Eb5xg0 D7x3w0 Easys0 D7x3w0 Easys0 D7x3w0 Eb5xg0 D7k580 Eb5xg0 D8n180 Ea31g0 D7x3w0 Easys0 D8zzw0 E9q2s0 Dast80 E5eis0 Dcyl80 E6hes0 Dc8nw0 E6udg0 Dbvp80 E6udg0 Dvonw0 E4olg0 De1h80 E4olg0 De1h80 E4olg0 Dc8nw0 E7x9g0 Dast80 E7x9g0 Dast80 E7x9g0 Dast80 E8a840 Dafuk0 E7x9g0 Db5rw0 E7x9g0
America/Creston|LMT/-27964 MST/-25200 PST/-28800|MST7|B-18vrx38 Ch39xv8 Bvbus0
America/Cuiaba|LMT/-13460 -04/-14400 -03/-10800|<-04>4|B-t85hm4 C99k9y4 B9a9c0 C9io40 B99980 C8p65g0 B6zuo0 Cbs2o0 B67zw0 Ccjxg0 B69uk0 Ccjxg0 B4ml80 C5mf440 B49mk0 Chaas0 B316k0 Ccls40 B4ml80 Ccls40 B66580 Ccls40 B67zw0 C981s40 B6u7w0 Cbiw40 B5rbw0 Cd0lg0 B5ed80 Ccyqs0 B5ed80 Cdbpg0 B64ak0 Ccyqs0 B64ak0 Ccls40 B5rbw0 Cdbpg0 B51ek0 Cdbpg0 B6h980 Cc8tg0 B6h980 Cc8tg0 B64ak0 Cc8tg0 B6u7w0 Cbxpg0 B7iak0 Cbiw40 B6u7w0 Cbiw40 B7k580 Cbiw40 B6u7w0 Cc8tg0 B6h980 Cdbpg0 B5ed80 Cw5hg0 B5nmk0 Cc8tg0 B6h980 Cdbpg0 B5rbw0 Cbvus0 B6h980 Ccls40 B64ak0 Ccls40 B6h980 Cc8tg0 B6h980 Cc8tg0 B6u7w0 Cc8tg0 B64ak0 Ccls40 B64ak0 Ccls40 B6h980 Cc8tg0 B6h980 Cc8tg0 B6h980 Cc8tg0 B6h980 Cdbpg0 B5ed80
America/Curacao America/Kralendijk America/Lower_Princes|LMT/-16547 -0430/-16200 AST/-14400|AST4|B-u7lckd Crlo7qd
America/Danmarkshavn|LMT/-4480 -03/-10800 -02/-7200 GMT/0|GMT0|B-rvusjk Cx8nx3k B8zrk0 C9d1c0 B9d1c0 C9d1c0 B9d1c0 C9d1c0 B9d1c0 C9d1c0 B9q000 C9d1c0 B9d1c0 C9d1c0 B9d1c0 C9d1c0 B9d1c0 C9d1c0 B9d1c0 C9d1c0 B9d1c0 C9d1c0 B9q000 C9d1c0 B9d1c0 C9d1c0 B9d1c0 C9d1c0 B9d1c0 C9d1c0 B9d1c0 C9d1c0 B9d1c0 D53hk0
America/Dawson|LMT/-33460 YST/-32400 YDT/-28800 YWT/-28800 YPT/-28800 YDDT/-25200 PST/-28800 PDT/-25200 MST/-25200|MST7|B-1079suk C97l62k Ba2vw0 Casys0 B882c0 Dbmiwc0 E1tz000 B2e180 Fa7n3w0 B9q000 G465k00 H3e2is0 G9cyk0 H9d440 G9cyk0 H9d440 G9px80 H905g0 G9px80 H9d440 G9cyk0 H9d440 G9cyk0 H9d440 G9cyk0 H8a840 Gafuk0 H8a840 Gast80 H7x9g0 Gast80 H7x9g0 Gast80 H8a840 Gafuk0 H8a840 Gafuk0 H8a840 Gast80 H7x9g0 Gast80 H7x9g0 Gast80 H8a840 Gafuk0 H8a840 Gafuk0 H8a840 Gafuk0 H8a840 Gast80 H7x9g0 Gast80 H7x9g0 Gast80 H8a840 Gafuk0 H8a840 Gafuk0 H8a840 Gast80 H7x9g0 Gast80 H7x9g0 Gast80 H6udg0 Gc8nw0 H6hes0 Gc8nw0 H6hes0 Gc8nw0 H6udg0 Gc8nw0 H6hes0 Gc8nw0 H6hes0 Gc8nw0 H6hes0 Gc8nw0 H6hes0 Gc8nw0 H6hes0 Gc8nw0 H6udg0 Gc8nw0 H6hes0 Gc8nw0 H6hes0 Gc8nw0 H6hes0 Gc8nw0 H6hes0 Ic8ic0
America/Dawson_Creek|LMT/-28856 PST/-28800 PDT/-25200 PWT/-25200 PPT/-25200 MST/-25200|MST7|B-18vrweg Chw36ug Ba2vw0 Dc5jxg0 E1tz2s0 B2dyg0 Ctj1g0 B7x3w0 Casys0 B7x3w0 Casys0 B7x3w0 Cb5xg0 B7k580 Cb5xg0 B7x3w0 Casys0 B7x3w0 Casys0 B7x3w0 Casys0 B7x3w0 Casys0 B7x3w0 Cb5xg0 B7x3w0 Casys0 B7x3w0 Casys0 B7x3w0 Casys0 B7x3w0 Casys0 B7x3w0 Cb5xg0 B7k580 Cb5xg0 B9cyk0 C9d440 B9cyk0 C9d440 B9cyk0 C9d440 B9px80 C905g0 B9px80 C9d440 B9cyk0 C9d440 B9cyk0 C9d440 B9cyk0 C9d440 B9cyk0 C9d440 B9px80 C9d440 F69uk0
America/Denver America/Shiprock Navajo US/Mountain|LMT/-25196 MST/-25200 MDT/-21600 MWT/-21600 MPT/-21600|MST7MDT,M3.2.0,M11.1.0|B-18y0j80 Chxltk0 Bast80 C7x9g0 Bast80 C7x9g0 Bb5rw0 C7kas0 B2vmk0 Dataw40 E1tz5k0 B2dvo0 Ca7n9g0 B9px80 C905g0 B9px80 C9d440 B9cyk0 C9d440 B9cyk0 C9d440 B9cyk0 C9d440 B9cyk0 C9d440 B9px80 C9d440 B9cyk0 C9d440 B9cyk0 C3lpg0 Bf4d80 C64g40 Bclmk0 C9d440 B9px80 C905g0 B9px80 C9d440 B9cyk0 C9d440 B9cyk0 C9d440 B9cyk0 C9d440 B9cyk0 C9d440 B9px80 C905g0 B9px80 C9d440 B9cyk0 C9d440 B9cyk0 C9d440 B9cyk0 C8a840 Bafuk0 C8a840 Bast80 C7x9g0 Bast80 C7x9g0 Bast80 C8a840 Bafuk0 C8a840 Bafuk0 C8a840 Bast80 C7x9g0 Bast80 C7x9g0 Bast80 C8a840 Bafuk0 C8a840 Bafuk0 C8a840 Bafuk0 C8a840 Bast80 C7x9g0 Bast80 C7x9g0 Bast80 C8a840 Bafuk0 C8a840 Bafuk0 C8a840 Bast80 C7x9g0 Bast80 C7x9g0 Bast80 C6udg0
America/Detroit US/Michigan|LMT/-19931 CST/-21600 EST/-18000 EWT/-14400 EPT/-14400 EDT/-14400|EST5EDT,M3.2.0,M11.1.0|B-xx8dyd C5eraud Ddyeyk0 E1tzb40 C2dq40 F1c9440 C7x3w0 F9rlbxo C71s2c F9d440 C9cyk0 F2cmdg0 C9cyk0 F3lpg0 Cf4d80 F9d440 C9cyk0 F9d440 C9px80 F905g0 C9px80 F9d440 C9cyk0 F9d440 C9cyk0 F9d440 C9cyk0 F9d440 C9cyk0 F9d440 C9px80 F905g0 C9px80 F9d440 C9cyk0 F9d440 C9cyk0 F9d440 C9cyk0 F8a840 Cafuk0 F8a840 Cast80 F7x9g0 Cast80 F7x9g0 Cast80 F8a840 Cafuk0 F8a840 Cafuk0 F8a840 Cast80 F7x9g0 Cast80 F7x9g0 Cast80 F8a840 Cafuk0 F8a840 Cafuk0 F8a840 Cafuk0 F8a840 Cast80 F7x9g0 Cast80 F7x9g0 Cast80 F8a840 Cafuk0 F8a840 Cafuk0 F8a840 Cast80 F7x9g0 Cast80 F7x9g0 Cast80 F6udg0
America/Dominica|LMT/-14736 AST/-14400|AST4|B-uj7wl0
America/Edmonton America/Yellowknife Canada/Mountain|LMT/-27232 MST/-25200 MDT/-21600 MWT/-21600 MPT/-21600|MST7MDT,M3.2.0,M11.1.0|B-x1yazk C629ink Ba2vw0 C8n6s0 B29ek0 Ch6lg0 B9px80 C905g0 B7x3w0 Cb5xg0 B7k580 Cb5xg0 B7x3w0 D9l0g40 E1tz5k0 B2dvo0 Ctj1g0 B7x3w0 Cctzk40 B9cyk0 C9d440 B9cyk0 C9d440 B9cyk0 C9d440 B9cyk0 C9d440 B9px80 C905g0 B9px80 C9d440 B9cyk0 C9d440 B9cyk0 C9d440 B9cyk0 C9d440 B9cyk0 C9d440 B9px80 C905g0 B9px80 C9d440 B9cyk0 C9d440 B9cyk0 C9d440 B9cyk0 C8a840 Bafuk0 C8a840 Bast80 C7x9g0 Bast80 C7x9g0 Bast80 C8a840 Bafuk0 C8a840 Bafuk0 C8a840 Bast80 C7x9g0 Bast80 C7x9g0 Bast80 C8a840 Bafuk0 C8a840 Bafuk0 C8a840 Bafuk0 C8a840 Bast80 C7x9g0 Bast80 C7x9g0 Bast80 C8a840 Bafuk0 C8a840 Bafuk0 C8a840 Bast80 C7x9g0 Bast80 C7x9g0 Bast80 C6udg0
America/Eirunepe|LMT/-16768 -05/-18000 -04/-14400|<-05>5|B-t85f28 C99ka68 B9a9c0 C9io40 B99980 C8p65g0 B6zuo0 Cbs2o0 B67zw0 Ccjxg0 B69uk0 Ccjxg0 B4ml80 C5mf440 B49mk0 Chaas0 B316k0 Ccls40 B4ml80 Ccls40 B66580 Ccls40 B67zw0 C981s40 B6u7w0 Cbiw40 B5rbw0 Cd0lg0 B5ed80 C2yy2s0 B6h980 C7hg2s0 B2t2t80
America/El_Salvador|LMT/-21408 CST/-21600 CDT/-18000|CST6|B-pkm4tc Cymao5c B7k580 Cb5xg0 B7k580
America/Ensenada America/Santa_Isabel America/Tijuana Mexico/BajaNorte|LMT/-28084 MST/-25200 PST/-28800 PDT/-25200 PWT/-25200 PPT/-25200|PST8PDT,M3.2.0,M11.1.0|B-p1u4k0 C11juo0 B1sm040 C1si580 D71s40 C9cyk0 E5iidg0 F1q6700 C4qzk0 D18uw40 Celuk0 Doa5g0 C7iak0 Db6300 C7x3w0 Dasys0 C7x3w0 Dasw00 C7x6o0 Dasw00 C7x6o0 Dasw00 C7x6o0 Db5uo0 C7x6o0 Dasw00 C7x6o0 Dasw00 C7x6o0 Dasw00 C7x6o0 Dasw00 C7x6o0 Db5uo0 C7k800 Db5uo0 C9d1c0 D9d1c0 C9d1c0 D9d1c0 C9d1c0 D9d1c0 C9q000 D902o0 C9q000 D9d440 C9cyk0 D9d440 C9cyk0 D9d440 C9cyk0 D9d440 C9cyk0 D9d440 C9px80 D9d440 C9cyk0 D9d440 C9cyk0 D3lpg0 Cf4d80 D64g40 Cclmk0 D9d440 C9px80 D905g0 C9px80 D9d440 C9cyk0 D9d440 C9cyk0 D9d440 C9cyk0 D9d440 C9cyk0 D9d440 C9px80 D905g0 C9px80 D9d440 C9cyk0 D9d440 C9cyk0 D9d440 C9cyk0 D8a840 Cafuk0 D8a840 Cast80 D7x9g0 Cast80 D7x9g0 Cast80 D8a840 Cafuk0 D8a840 Cafuk0 D8a840 Cast80 D7x9g0 Cast80 D7x9g0 Cast80 D8a840 Cafuk0 D8a840 Cafuk0 D8a840 Cafuk0 D8a840 Cast80 D7x9g0 Cast80 D7x9g0 Cast80 D8a840 Cafuk0 D8a840 Cafuk0 D8a840 Cast80 D7x9g0 Cast80 D7x9g0 Cast80 D7x9g0 Cast80 D8a840 Cafuk0 D8a840 Cafuk0 D77c40
America/Fort_Nelson|LMT/-29447 PST/-28800 PDT/-25200 PWT/-25200 PPT/-25200 MST/-25200|MST7|B-18vrvy1 Chw36e1 Ba2vw0 Dc5jxg0 E1tz2s0 B2dyg0 Ctj1g0 B7x3w0 Casys0 B7x3w0 Casys0 B7x3w0 Cb5xg0 B7k580 Cb5xg0 B7x3w0 Casys0 B7x3w0 Casys0 B7x3w0 Casys0 B7x3w0 Casys0 B7x3w0 Cb5xg0 B7x3w0 Casys0 B7x3w0 Casys0 B7x3w0 Casys0 B7x3w0 Casys0 B7x3w0 Cb5xg0 B7k580 Cb5xg0 B9cyk0 C9d440 B9cyk0 C9d440 B9cyk0 C9d440 B9px80 C905g0 B9px80 C9d440 B9cyk0 C9d440 B9cyk0 C9d440 B9cyk0 C9d440 B9cyk0 C9d440 B9px80 C9d440 B9cyk0 C9d440 B9cyk0 C9d440 B9cyk0 C9d440 B9cyk0 C9d440 B9px80 C905g0 B9px80 C9d440 B9cyk0 C9d440 B9cyk0 C9d440 B9cyk0 C9d440 B9cyk0 C9d440 B9px80 C905g0 B9px80 C9d440 B9cyk0 C9d440 B9cyk0 C9d440 B9cyk0 C8a840 Bafuk0 C8a840 Bast80 C7x9g0 Bast80 C7x9g0 Bast80 C8a840 Bafuk0 C8a840 Bafuk0 C8a840 Bast80 C7x9g0 Bast80 C7x9g0 Bast80 C8a840 Bafuk0 C8a840 Bafuk0 C8a840 Bafuk0 C8a840 Bast80 C7x9g0 Bast80 C7x9g0 Bast80 C8a840 Bafuk0 C8a840 Bafuk0 C8a840 Bast80 C7x9g0 Bast80 C7x9g0 Bast80 C6udg0 Bc8nw0 C6hes0 Bc8nw0 C6hes0 Bc8nw0 C6udg0 Bc8nw0 C6hes0 Bc8nw0 C6hes0 Bc8nw0 C6hes0 Bc8nw0 C6hes0 Bc8nw0 F6hes0
America/Fort_Wayne America/Indiana/Indianapolis America/Indianapolis US/East-Indiana|LMT/-20678 CST/-21600 CDT/-18000 CWT/-18000 CPT/-18000 EST/-18000 EDT/-14400|EST5EDT,M3.2.0,M11.1.0|B-18y0m00 Chxltk0 Bast80 C7x9g0 Bast80 Cbaw840 B51ek0 D6w840 E1tz8c0 B2dsw0 Casys0 B7x3w0 Casys0 B7x3w0 Casys0 B7x3w0 Casys0 B7x3w0 Cb5xg0 B7k580 Cb5xg0 B7x3w0 Casys0 B7x3w0 Casys0 B7x3w0 Casys0 B7x3w0 Fasys0 B19q7w0 Fasys0 G5qonw0 F9cyk0 G9d440 F9cyk0 Gihslg0 Fast80 G6udg0
America/Fortaleza|LMT/-9240 -03/-10800 -02/-7200|<-03>3|B-t85kvc C99kafc B9a9c0 C9io40 B99980 C8p65g0 B6zuo0 Cbs2o0 B67zw0 Ccjxg0 B69uk0 Ccjxg0 B4ml80 C5mf440 B49mk0 Chaas0 B316k0 Ccls40 B4ml80 Ccls40 B66580 Ccls40 B67zw0 C981s40 B6u7w0 Cbiw40 B5rbw0 Cd0lg0 B5ed80 Ccyqs0 B5ed80 Cdbpg0 B64ak0 C514g40 B7k580 Cbiw40 Bpuk0 Cid6s0 B6h980
America/Glace_Bay|LMT/-14388 AST/-14400 ADT/-10800 AWT/-10800 APT/-10800|AST4ADT,M3.2.0,M11.1.0|B-z94kwc C89fk8c Ba2vw0 Dc5jxg0 E1tzdw0 B2dnc0 C3y8g40 B7x3w0 C9pa5g0 B9cyk0 C9d440 B9cyk0 C9d440 B9cyk0 C9d440 B9cyk0 C9d440 B9px80 C905g0 B9px80 C9d440 B9cyk0 C9d440 B9cyk0 C9d440 B9cyk0 C9d440 B9cyk0 C9d440 B9px80 C905g0 B9px80 C9d440 B9cyk0 C9d440 B9cyk0 C9d440 B9cyk0 C8a840 Bafuk0 C8a840 Bast80 C7x9g0 Bast80 C7x9g0 Bast80 C8a840 Bafuk0 C8a840 Bafuk0 C8a840 Bast80 C7x9g0 Bast80 C7x9g0 Bast80 C8a840 Bafuk0 C8a840 Bafuk0 C8a840 Bafuk0 C8a840 Bast80 C7x9g0 Bast80 C7x9g0 Bast80 C8a840 Bafuk0 C8a840 Bafuk0 C8a840 Bast80 C7x9g0 Bast80 C7x9g0 Bast80 C6udg0
America/Godthab America/Nuuk|LMT/-12416 -03/-10800 -02/-7200 -01/-3600|<-02>2<-01>,M3.5.0/-1,M10.5.0/0|B-rvumf4 Cx8nqz4 B8zrk0 C9d1c0 B9d1c0 C9d1c0 B9d1c0 C9d1c0 B9d1c0 C9d1c0 B9q000 C9d1c0 B9d1c0 C9d1c0 B9d1c0 C9d1c0 B9d1c0 C9d1c0 B9d1c0 C9d1c0 B9d1c0 C9d1c0 B9q000 C9d1c0 B9d1c0 C9d1c0 B9d1c0 C9d1c0 B9d1c0 C9d1c0 B9d1c0 C9d1c0 B9d1c0 C9q000 Basw00 C7x6o0 Basw00 C7x6o0 Basw00 C7x6o0 Bb5uo0 C7k800 Bb5uo0 C7k800 Bb5uo0 C7x6o0 Basw00 C7x6o0 Basw00 C7x6o0 Bb5uo0 C7k800 Bb5uo0 C7k800 Bb5uo0 C7k800 Bb5uo0 C7x6o0 Basw00 C7x6o0 Basw00 C7x6o0 Bb5uo0 C7k800 Bb5uo0 C7k800 Bb5uo0 C7x6o0 Basw00 C7x6o0 Basw00 C7x6o0 Basw00 C7x6o0 Bb5uo0 C7k800 Bb5uo0 C7k800 Bb5uo0 C7x6o0 Basw00 C7x6o0 Basw00 C7x6o0 Bb5uo0 C7k800 Bb5uo0 C7k800 Dj31c0
America/Goose_Bay|LMT/-14500 NST/-12652 NDT/-9052 NST/-12600 NDT/-9000 NWT/-9000 NPT/-9000 AST/-14400 ADT/-10800 ADDT/-7200|AST4ADT,M3.2.0,M11.1.0|B-18vs7h8 Chw35go Ba2vw0 D8kjbw0 Ekzjyk D7k580 Eb5xg0 D7k580 Eb5xg0 D7k580 Ebiw40 D776k0 Ebiw40 D7k580 Eb5xg0 D7k580 Fb5xg0 G1pb260 D2dly0 Ebiw40 D7k580 Eb5xg0 D7k580 Eb5xg0 D7k580 Eb5xg0 D7k580 Ebiw40 D7k580 Eag040 D7x3w0 Easys0 D7x3w0 Easys0 D7x3w0 Easys0 D7x3w0 Easys0 D7x3w0 Eb5xg0 D7x3w0 Easys0 D7x3w0 Easys0 D7x3w0 Easys0 D7x3w0 Easys0 D9px80 E9d440 D9cyk0 E9d440 D9cyk0 E9d440 D9cyk0 E9d440 D9cyk0 E9d440 D9px80 H6y2s0 I22420 H9px80 I9d440 H9cyk0 I9d440 H9cyk0 I9d440 H9cyk0 I9d440 H9cyk0 I9d440 H9px80 I9d440 H9cyk0 I9d440 H9cyk0 I9d440 H9cyk0 I9d440 H9cyk0 I9d440 H9px80 I905g0 H9px80 I9d440 H9cyk0 I9d440 H9cyk0 I9d440 H9cyk0 I9d440 H9cyk0 I9d440 H9px80 I905g0 H9px80 I9d440 H9cyk0 I9d440 H9cyk0 I9d440 H9cyk0 I8a2lo Hafuk0 J8a840 Hasqg0 I7xc80 Hast80 I7x9g0 Hast80 I8a840 Hafuk0 I8a840 Hafuk0 I8a840 Hast80 I7x9g0 Hast80 I7x9g0 Hast80 I8a840 Hafuk0 I8a840 Hafuk0 I8a840 Hafuk0 I8a840 Hast80 I7x9g0 Hast80 I7x9g0 Hast80 I8a840 Hafuk0 I8a840 Hafuk0 I8a840 Hast80 I7x9g0 Hast80 I7x9g0 Hast80 I6udg0 Hc8nw0 I6hes0 Hc8nw0 I6hes0 Hc8nw0 I6udg0 Hc8nw0 I6hes0 Hc8tec
America/Grand_Turk|LMT/-17072 KMT/-18430 EST/-18000 EDT/-14400 AST/-14400|EST5EDT,M3.2.0,M11.1.0|B-15r0w5s Cbiv7pq Dz3brw2 C9cyk0 D9d440 C9cyk0 D9d440 C9cyk0 D9d440 C9px80 D905g0 C9px80 D9d440 C9cyk0 D9d440 C9cyk0 D9d440 C9cyk0 D8a840 Cafuk0 D8a840 Cast80 D7x9g0 Cast80 D7x9g0 Cast80 D8a840 Cafuk0 D8a840 Cafuk0 D8a840 Cast80 D7x9g0 Cast80 D7x9g0 Cast80 D8a840 Cafuk0 D8a840 Cafuk0 D8a840 Cafuk0 D8a840 Cast80 D7x9g0 Cast80 D7x9g0 Cast80 D8a840 Cafuk0 D8a840 Cafuk0 D8a840 Cast80 D7x9g0 Cast80 D7x9g0 Cast80 D6udg0 Cc8nw0 D6hes0 Cc8nw0 D6hes0 Cc8nw0 D6udg0 Cc8nw0 D6hes0 Cc8nw0 D6hes0 Cc8nw0 D6hes0 Cc8nw0 D6hes0 Cc8nw0 E6hes0 D1kj6o0
America/Grenada|LMT/-14820 AST/-14400|AST4|B-uj7wkc
America/Guadeloupe|LMT/-14768 AST/-14400|AST4|B-ukehxs
America/Guatemala|LMT/-21724 CST/-21600 CDT/-18000|CST6|B-qqqskk Css0akk B4ofw0 C4tidg0 B6djw0 C3wwas0 B8n180 C7n5ms0 B7x3w0
America/Guayaquil|LMT/-19160 QMT/-18840 -05/-18000 -04/-14400|<-05>5|B-15r0ujs Cle9mf4 Dwb620o C3jp80
America/Guyana|LMT/-13959 -04/-14400 -0345/-13500 -03/-10800|<-04>4|B-uhmik9 C1va8c9 Dvj6nb0 B8p0jd0
America/Halifax Canada/Atlantic|LMT/-15264 AST/-14400 ADT/-10800 AWT/-10800 APT/-10800|AST4ADT,M3.2.0,M11.1.0|B-z94k80 C777go0 B9et80 Cst9o0 Ba2vw0 Cssyk0 B5rbw0 Ccv1g0 B69uk0 Cc6ys0 B6kyk0 Cci2s0 B67zw0 Cci2s0 B6w2k0 Cbu040 B7lzw0 Cbu040 B66580 Cbu040 B7lzw0 Cbu040 B64ak0 Ccls40 B5v180 Ccv1g0 B6j3w0 Cc6ys0 B79180 Cb42s0 B7lzw0 Cb42s0 B7yyk0 Cbu040 B64ak0 Cdbpg0 B66580 Ccls40 B5ed80 Cbu040 B7lzw0 Cb42s0 B7lzw0 Ccjxg0 B66580 Cbh1g0 B7lzw0 Cb42s0 B7lzw0 D6uj00 E1tzdw0 B2dnc0 Casys0 B7x3w0 Casys0 B7x3w0 Casys0 B7x3w0 Casys0 B7x3w0 Ctw040 B7x3w0 Casys0 B7x3w0 Casys0 B7x3w0 Casys0 B7x3w0 Ctw040 B7x3w0 Casys0 B7x3w0 Casys0 B7x3w0 Casys0 B7x3w0 C1cm2s0 B9cyk0 C9d440 B9cyk0 C9d440 B9cyk0 C9d440 B9px80 C905g0 B9px80 C9d440 B9cyk0 C9d440 B9cyk0 C9d440 B9cyk0 C9d440 B9cyk0 C9d440 B9px80 C9d440 B9cyk0 C9d440 B9cyk0 C9d440 B9cyk0 C9d440 B9cyk0 C9d440 B9px80 C905g0 B9px80 C9d440 B9cyk0 C9d440 B9cyk0 C9d440 B9cyk0 C9d440 B9cyk0 C9d440 B9px80 C905g0 B9px80 C9d440 B9cyk0 C9d440 B9cyk0 C9d440 B9cyk0 C8a840 Bafuk0 C8a840 Bast80 C7x9g0 Bast80 C7x9g0 Bast80 C8a840 Bafuk0 C8a840 Bafuk0 C8a840 Bast80 C7x9g0 Bast80 C7x9g0 Bast80 C8a840 Bafuk0 C8a840 Bafuk0 C8a840 Bafuk0 C8a840 Bast80 C7x9g0 Bast80 C7x9g0 Bast80 C8a840 Bafuk0 C8a840 Bafuk0 C8a840 Bast80 C7x9g0 Bast80 C7x9g0 Bast80 C6udg0
America/Havana Cuba|LMT/-19768 HMT/-19776 CST/-18000 CDT/-14400|CST5CDT,M3.2.0/0,M11.1.0/1|B-15r0u2w Cijto08 D1icfyo C69uk0 D62s040 C4ofw0 De1ms0 C51ek0 De1ms0 C4ofw0 D1fhs40 C4ofw0 De1ms0 C4ofw0 D9s9k40 C67zw0 Dcedg0 C6h980 D9o840 C7yyk0 Db5xg0 C7k580 Dbvus0 C9cyk0 D9d440 C9cyk0 D9d440 C9px80 D9d440 C8a2k0 Dag040 C8bx80 Dae5g0 C8drw0 Dacas0 C9cyk0 D9d440 C9px80 D905g0 C9px80 D9q2s0 C7x3w0 D8a840 Cast80 D7x9g0 Cast80 Dasys0 C7x3w0 Dasys0 C7x3w0 Dasys0 C7x3w0 Dasys0 C8a2k0 Dag040 C8a2k0 D7x9g0 Cast80 D7x9g0 Cast80 D8a840 Cafuk0 D8a840 Cafuk0 D905g0 Ca2vw0 D905g0 C9q000 D902o0 C9q000 D902o0 C9q000 D902o0 C9q000 D902o0 C9q000 D9d1c0 C9d1c0 D9d1c0 C9q000 D8n400 Casw00 D7x6o0 Cb5uo0 D7x6o0 Casw00 D7x6o0 Casw00 D8a5c0 Cafxc0 D8a5c0 Cafxc0 D7x6o0 C1cm000 D6uao0 Cbvs00 D779c0 Cbitc0 D6uao0 Cbvs00 D779c0 Cbvs00 D779c0 Cc8qo0 D779c0
America/Hermosillo|LMT/-26632 MST/-25200 CST/-21600 MDT/-21600|MST7|B-p1u4k0 C2u5s00 B1si580 D8jhg0 B7x3w0 C9eys0 B591h80 Ds5qoc0 Bafuk0 D8a840 Bafuk0 D8a840 Bafuk0
America/Indiana/Knox America/Knox_IN US/Indiana-Starke|LMT/-20790 CST/-21600 CDT/-18000 CWT/-18000 CPT/-18000 EST/-18000|CST6CDT,M3.2.0,M11.1.0|B-18y0m00 Chxltk0 Bast80 C7x9g0 Bast80 Dbmtus0 E1tz8c0 B2dsw0 Ctj1g0 B7x3w0 Casys0 B7x3w0 Casys0 B7x3w0 Cb5xg0 B7k580 Cb5xg0 B7x3w0 Casys0 B7x3w0 Casys0 B7x3w0 Casys0 B7x3w0 Casys0 B9px80 C9d440 B9cyk0 C9d440 B7x3w0 Casys0 B7x3w0 Casys0 B9cyk0 C9d440 B9px80 C9d440 B9cyk0 F9d440 Bs3180 C1twas0 B9cyk0 C9d440 B9cyk0 C9d440 B9cyk0 C9d440 B9cyk0 C9d440 B9px80 C9d440 B9cyk0 C9d440 B9cyk0 C3lpg0 Bf4d80 C64g40 Bclmk0 C9d440 B9px80 C905g0 B9px80 C9d440 B9cyk0 C9d440 B9cyk0 C9d440 B9cyk0 C9d440 B9cyk0 C9d440 B9px80 C905g0 B9px80 C9d440 B9cyk0 C9d440 B9cyk0 C9d440 B9cyk0 C8a840 Bafuk0 C8a840 Bast80 C7x9g0 Bast80 C7x9g0 Bast80 C8a840 Fafuk0 C7j5400 Basw00 C6udg0
America/Indiana/Marengo|LMT/-20723 CST/-21600 CDT/-18000 CWT/-18000 CPT/-18000 EST/-18000 EDT/-14400|EST5EDT,M3.2.0,M11.1.0|B-18y0m00 Chxltk0 Bast80 C7x9g0 Bast80 Dbmtus0 E1tz8c0 B2dsw0 C2wsas0 B7x3w0 C1c9440 B7x3w0 Casys0 B7x3w0 Cb5xg0 B7x3w0 Casys0 B7x3w0 Casys0 B7x3w0 Casys0 B7x3w0 Casys0 B7x3w0 Fb5xg0 G465h80 F9cyk0 G9d440 F9cyk0 G9d440 F9px80 G9d440 F9cyk0 G9d440 F9cyk0 C3lpg0 Ff4g00 G64dc0 Fclmk0 Gfvt9g0 Fast80 G6udg0
America/Indiana/Petersburg|LMT/-20947 CST/-21600 CDT/-18000 CWT/-18000 CPT/-18000 EST/-18000|EST5EDT,M3.2.0,M11.1.0|B-18y0m00 Chxltk0 Bast80 C7x9g0 Bast80 Dbmtus0 E1tz8c0 B2dsw0 C501ek0 B7kas0 Cb5xg0 B7x3w0 Casys0 B7x3w0 Casys0 B7x3w0 Casys0 B7x3w0 Casys0 B7x3w0 Cb5xg0 B9cyk0 C9d440 B9cyk0 C9d440 B9cyk0 C9d440 B9cyk0 F9d440 Bsfzw0 C9d440 B9cyk0 C9d440 B9cyk0 C9d440 B9cyk0 C9d440 B9cyk0 C9d440 B9px80 C9d440 B9cyk0 C9d440 B9cyk0 C3lpg0 Bf4d80 C64g40 Bclmk0 C9d440 B9px80 C905g0 F9px80 Ceu02o0 Basw00 C6udg0 Fc8nw0
America/Indiana/Tell_City|LMT/-20823 CST/-21600 CDT/-18000 CWT/-18000 CPT/-18000 EST/-18000 EDT/-14400|CST6CDT,M3.2.0,M11.1.0|B-18y0m00 Chxltk0 Bast80 C7x9g0 Bast80 Dbmtus0 E1tz8c0 B2dsw0 C501ek0 B7kas0 Cb5xg0 B7x3w0 Casys0 B7x3w0 Casys0 B7x3w0 Casys0 B7x3w0 Casys0 B7x3w0 Cb5xg0 B9cyk0 C9d440 B9cyk0 C9d440 B9cyk0 F9d440 B1tw580 C9d440 B9cyk0 G9d440 F9cvs0 G9d440 F9cyk0 Cihslg0 Basw00 C6udg0
America/Indiana/Vevay|LMT/-20416 CST/-21600 CDT/-18000 CWT/-18000 CPT/-18000 EST/-18000 EDT/-14400|EST5EDT,M3.2.0,M11.1.0|B-18y0m00 Chxltk0 Bast80 C7x9g0 Bast80 Dbmtus0 E1tz8c0 B2dsw0 F4gyis0 G7txx80 F9cyk0 G9d440 F9cyk0 G9d440 F9px80 G9d440 F9cyk0 Ghfzhg0 Fast80 G6udg0
America/Indiana/Vincennes|LMT/-21007 CST/-21600 CDT/-18000 CWT/-18000 CPT/-18000 EST/-18000 EDT/-14400|EST5EDT,M3.2.0,M11.1.0|B-18y0m00 Chxltk0 Bast80 C7x9g0 Bast80 Dbmtus0 E1tz8c0 B2dsw0 Casys0 B7x3w0 C3fidg0 B7x3w0 Casys0 B7x3w0 Cb5rw0 B7kas0 Cb5xg0 B7x3w0 Casys0 B7x3w0 Casys0 B7x3w0 Casys0 B7x3w0 Casys0 B9px80 C9d440 B7k580 Cb5xg0 B9cyk0 C9d440 B9cyk0 F9d440 G2lz980 F9cyk0 G9d440 F9cyk0 Cihslg0 Basw00 C6udg0 Fc8nw0
America/Indiana/Winamac|LMT/-20785 CST/-21600 CDT/-18000 CWT/-18000 CPT/-18000 EST/-18000 EDT/-14400|EST5EDT,M3.2.0,M11.1.0|B-18y0m00 Chxltk0 Bast80 C7x9g0 Bast80 Dbmtus0 E1tz8c0 B2dsw0 Casys0 B7x3w0 Casys0 B7x3w0 Casys0 B7x3w0 Casys0 B7x3w0 Cb5xg0 B7k580 Cb5xg0 B7x3w0 Casys0 B7x3w0 Casys0 B7x3w0 Casys0 B7x3w0 Casys0 B9px80 C9d440 B9cyk0 C9d440 B7x3w0 Casys0 B7x3w0 Casys0 B7x3w0 Casys0 B7x3w0 Fb5xg0 G465h80 F9cyk0 G9d440 F9cyk0 Cihslg0 Basw00 G6udg0
America/Inuvik|-00/0 PST/-28800 PDT/-25200 MDT/-21600 MST/-25200|MST7MDT,M3.2.0,M11.1.0|B-8ve5c0 Ca34zs0 B9cyk0 C9d440 B9cyk0 C9d440 B9cyk0 C9d440 B9cyk0 C9d440 B9px80 C905g0 B9px80 C9d440 B9cyk0 D9d440 E9cvs0 D9d440 E9cyk0 D9d440 E9cyk0 D9d440 E9px80 D905g0 E9px80 D9d440 E9cyk0 D9d440 E9cyk0 D9d440 E9cyk0 D8a840 Eafuk0 D8a840 East80 D7x9g0 East80 D7x9g0 East80 D8a840 Eafuk0 D8a840 Eafuk0 D8a840 East80 D7x9g0 East80 D7x9g0 East80 D8a840 Eafuk0 D8a840 Eafuk0 D8a840 Eafuk0 D8a840 East80 D7x9g0 East80 D7x9g0 East80 D8a840 Eafuk0 D8a840 Eafuk0 D8a840 East80 D7x9g0 East80 D7x9g0 East80 D6udg0
America/Iqaluit America/Pangnirtung|-00/0 EWT/-14400 EPT/-14400 EST/-18000 EDT/-14400 CST/-21600 CDT/-18000|EST5EDT,M3.2.0,M11.1.0|B-eb6ao0 C1l3h80 D2dq40 Edvfpg0 D9cyk0 E9d440 D9cyk0 E9d440 D9cyk0 E9d440 D9cyk0 E9d440 D9px80 E905g0 D9px80 E9d440 D9cyk0 E9d440 D9cyk0 E9d440 D9cyk0 E9d440 D9cyk0 E9d440 D9px80 E905g0 D9px80 E9d440 D9cyk0 E9d440 D9cyk0 E9d440 D9cyk0 E8a840 Dafuk0 E8a840 Dast80 E7x9g0 Dast80 E7x9g0 Dast80 E8a840 Dafuk0 E8a840 Dafuk0 E8a840 Dast80 E7x9g0 Dast80 E7x9g0 Dast80 E8a840 Dafuk0 E8a840 Dafuk0 E8a840 Dafuk0 E8a840 Fast80 G7xc80 Dast80 E7x6o0 Dast80 E8a840 Dafuk0 E8a840 Dafuk0 E8a840 Dast80 E7x9g0 Dast80 E7x9g0 Dast80 E6udg0
America/Jamaica Jamaica|LMT/-18430 KMT/-18430 EST/-18000 EDT/-14400|EST5|B-15r0v42 Cbiv6o0 Dwbl182 Cf4d80 D64g40 Cclmk0 D9d440 C9px80 D905g0 C9px80 D9d440 C9cyk0 D9d440 C9cyk0 D9d440 C9cyk0 D9d440 C9cyk0 D9d440 C9px80 D905g0 C9px80
America/Juneau|LMT/54139 LMT/-32261 PST/-28800 PWT/-25200 PPT/-25200 PDT/-25200 YDT/-28800 YST/-32400 AKST/-32400 AKDT/-28800|AKST9AKDT,M3.2.0,M11.1.0|B-1hc7qjz Ch4yu44 Dln707v E1tz2s0 C2dyg0 Fcawis0 C9cyk0 F9d440 C9cyk0 F9d440 C9px80 F9d440 C9cyk0 F9d440 C9cyk0 F3lpg0 Cf4d80 F64g40 Cclmk0 F9d440 C9px80 F905g0 C9px80 F9d440 C9cyk0 F9d440 C9cyk0 G9d440 C9d1c0 F9d1c0 C9cyk0 F9d440 C9px80 F905g0 H9px80 I1leo0 J7rs80 I9cyk0 J9d440 I9cyk0 J9d440 I9cyk0 J8a840 Iafuk0 J8a840 Iast80 J7x9g0 Iast80 J7x9g0 Iast80 J8a840 Iafuk0 J8a840 Iafuk0 J8a840 Iast80 J7x9g0 Iast80 J7x9g0 Iast80 J8a840 Iafuk0 J8a840 Iafuk0 J8a840 Iafuk0 J8a840 Iast80 J7x9g0 Iast80 J7x9g0 Iast80 J8a840 Iafuk0 J8a840 Iafuk0 J8a840 Iast80 J7x9g0 Iast80 J7x9g0 Iast80 J6udg0
America/Kentucky/Louisville America/Louisville|LMT/-20582 CST/-21600 CDT/-18000 CWT/-18000 CPT/-18000 EST/-18000 EDT/-14400|EST5EDT,M3.2.0,M11.1.0|B-18y0m00 Chxltk0 Bast80 C7x9g0 Bast80 Csg5g0 B6bp80 Ca98o40 B7x3w0 D6w840 E1tz8c0 B2dsw0 Cast9o B1sw2c C21gis0 B7k580 Cb5xg0 B7x3w0 Casys0 B7x3w0 Casys0 B7x3w0 Casys0 B7x3w0 Casys0 B7x3w0 Cb5xg0 B9cyk0 C9d440 B9cyk0 C9d440 B9cyk0 C9d440 B9cyk0 C9d440 B9px80 C9d440 F4bh80 G3j3xc0 F9cyk0 G9d440 F9cyk0 G9d440 F9cyk0 G9d440 F9px80 G9d440 F9cyk0 G9d440 F9cyk0 C3lpg0 Ff4g00 G64dc0 Fclmk0 G9d440 F9px80 G905g0 F9px80 G9d440 F9cyk0 G9d440 F9cyk0 G9d440 F9cyk0 G9d440 F9cyk0 G9d440 F9px80 G905g0 F9px80 G9d440 F9cyk0 G9d440 F9cyk0 G9d440 F9cyk0 G8a840 Fafuk0 G8a840 Fast80 G7x9g0 Fast80 G7x9g0 Fast80 G8a840 Fafuk0 G8a840 Fafuk0 G8a840 Fast80 G7x9g0 Fast80 G7x9g0 Fast80 G8a840 Fafuk0 G8a840 Fafuk0 G8a840 Fafuk0 G8a840 Fast80 G7x9g0 Fast80 G7x9g0 Fast80 G8a840 Fafuk0 G8a840 Fafuk0 G8a840 Fast80 G7x9g0 Fast80 G7x9g0 Fast80 G6udg0
America/Kentucky/Monticello|LMT/-20364 CST/-21600 CDT/-18000 CWT/-18000 CPT/-18000 EST/-18000 EDT/-14400|EST5EDT,M3.2.0,M11.1.0|B-18y0m00 Chxltk0 Bast80 C7x9g0 Bast80 Dbmtus0 E1tz8c0 B2dsw0 Cbs6g40 B9cyk0 C9d440 B9cyk0 C9d440 B9cyk0 C9d440 B9px80 C9d440 B9cyk0 C9d440 B9cyk0 C3lpg0 Bf4d80 C64g40 Bclmk0 C9d440 B9px80 C905g0 B9px80 C9d440 B9cyk0 C9d440 B9cyk0 C9d440 B9cyk0 C9d440 B9cyk0 C9d440 B9px80 C905g0 B9px80 C9d440 B9cyk0 C9d440 B9cyk0 C9d440 B9cyk0 C8a840 Bafuk0 C8a840 Bast80 C7x9g0 Bast80 C7x9g0 Bast80 C8a840 Bafuk0 C8a840 Bafuk0 C8a840 Bast80 C7x9g0 Bast80 C7x9g0 Bast80 C8a840 Bafuk0 C8a840 Bafuk0 C8a840 Bafuk0 C8a840 Bast80 C7x9g0 Fast80 G7x6o0 Fast80 G8a840 Fafuk0 G8a840 Fafuk0 G8a840 Fast80 G7x9g0 Fast80 G7x9g0 Fast80 G6udg0
America/La_Paz|LMT/-16356 CMT/-16356 BST/-12756 -04/-14400|<-04>4|B-15r0wpo Clt1400 D84ik0
America/Lima|LMT/-18492 LMT/-18516 -05/-18000 -04/-14400|<-05>5|B-15r0v2c C9ov9co Dfcxjlo C4ml80 D93us0 C9cyk0 D9d440 C9cyk0 Dnw16s0 C4ml80 De5c40 C4ml80 D1fr1g0 C4ml80 D1yiys0 C4ml80
America/Los_Angeles US/Pacific|LMT/-28378 PST/-28800 PDT/-25200 PWT/-25200 PPT/-25200|PST8PDT,M3.2.0,M11.1.0|B-18y0gg0 Chxltk0 Bast80 C7x9g0 Bast80 Dbmtus0 E1tz2s0 B2dyg0 C1a3c5o Bf2iic Cowao0 B7k800 Cb5uo0 B7x6o0 Casw00 B7x6o0 Casw00 B7x6o0 Casw00 B7x6o0 Casw00 B7x6o0 Cb5uo0 B7x6o0 Casw00 B7x6o0 Casw00 B7x6o0 Casw00 B7x6o0 Casw00 B7x6o0 Cb5uo0 B7k800 Cb5uo0 B9d1c0 C9d1c0 B9d1c0 C9d1c0 B9d1c0 C9d1c0 B9q000 C902o0 B9q000 C9d440 B9cyk0 C9d440 B9cyk0 C9d440 B9cyk0 C9d440 B9cyk0 C9d440 B9px80 C9d440 B9cyk0 C9d440 B9cyk0 C3lpg0 Bf4d80 C64g40 Bclmk0 C9d440 B9px80 C905g0 B9px80 C9d440 B9cyk0 C9d440 B9cyk0 C9d440 B9cyk0 C9d440 B9cyk0 C9d440 B9px80 C905g0 B9px80 C9d440 B9cyk0 C9d440 B9cyk0 C9d440 B9cyk0 C8a840 Bafuk0 C8a840 Bast80 C7x9g0 Bast80 C7x9g0 Bast80 C8a840 Bafuk0 C8a840 Bafuk0 C8a840 Bast80 C7x9g0 Bast80 C7x9g0 Bast80 C8a840 Bafuk0 C8a840 Bafuk0 C8a840 Bafuk0 C8a840 Bast80 C7x9g0 Bast80 C7x9g0 Bast80 C8a840 Bafuk0 C8a840 Bafuk0 C8a840 Bast80 C7x9g0 Bast80 C7x9g0 Bast80 C6udg0
America/Maceio|LMT/-8572 -03/-10800 -02/-7200|<-03>3|B-t85ldw C99kaxw B9a9c0 C9io40 B99980 C8p65g0 B6zuo0 Cbs2o0 B67zw0 Ccjxg0 B69uk0 Ccjxg0 B4ml80 C5mf440 B49mk0 Chaas0 B316k0 Ccls40 B4ml80 Ccls40 B66580 Ccls40 B67zw0 C981s40 B6u7w0 Cbiw40 B5rbw0 Cd0lg0 B5ed80 Ccyqs0 B5ed80 Cdbpg0 B64ak0 C2yl440 B64ak0 C1wf1g0 B7k580 Cbiw40 Bpuk0 Cid6s0 B6h980
America/Managua|LMT/-20708 MMT/-20712 CST/-21600 EST/-18000 CDT/-18000|CST6|B-15r0tcs Cn7jmo4 Dka1i0o Cxqqk0 E24p6s0 C53980 Edmtg0 C53980 D60itw0 Cdq240 D53es0 C235h80 E4beis0 C8zzw0 Eat4c0 C7x140
America/Manaus Brazil/West|LMT/-14404 -04/-14400 -03/-10800|<-04>4|B-t85gvw C99k97w B9a9c0 C9io40 B99980 C8p65g0 B6zuo0 Cbs2o0 B67zw0 Ccjxg0 B69uk0 Ccjxg0 B4ml80 C5mf440 B49mk0 Chaas0 B316k0 Ccls40 B4ml80 Ccls40 B66580 Ccls40 B67zw0 C981s40 B6u7w0 Cbiw40 B5rbw0 Cd0lg0 B5ed80 C2yy2s0 B6h980
America/Marigot America/Port_of_Spain America/St_Barthelemy|LMT/-14764 AST/-14400|AST4|B-u6m79w
America/Martinique|LMT/-14660 FFMT/-14660 AST/-14400 ADT/-10800|AST4|B-15r0y0s Cb4o2o0 Dzz5x4s C8zzw0
America/Matamoros|LMT/-23400 CST/-21600 CDT/-18000|CST6CDT,M3.2.0,M11.1.0|B-p1u7c0 Cykt480 Bast80 C3vppg0 Bafuk0 C8a840 Bafuk0 C8a840 Bafuk0 C8a840 Bast80 C7x9g0 Bast80 C9q2s0 B7k580 C9q2s0 Bafuk0 C8a840 Bafuk0 C8a840 Bast80 C7x9g0 Bast80 C7x9g0 Bast80 C7x9g0 Bast80 C8a840 Bafuk0 C8a840 Bafuk0 C77c40
America/Mazatlan Mexico/BajaSur|LMT/-25540 MST/-25200 CST/-21600 MDT/-21600|MST7|B-p1u4k0 C2u5s00 B1si580 D8jhg0 B7x3w0 C9eys0 B591h80 Ds5qoc0 Bafuk0 D8a840 Bafuk0 D8a840 Bafuk0 D8a840 Bast80 D7x9g0 Bast80 D9q2s0 B7k580 D9q2s0 Bafuk0 D8a840 Bafuk0 D8a840 Bast80 D7x9g0 Bast80 D7x9g0 Bast80 D7x9g0 Bast80 D8a840 Bafuk0 D8a840 Bafuk0 D8a840 Bast80 D7x9g0 Bast80 D7x9g0 Bast80 D8a840 Bafuk0 D8a840 Bafuk0 D8a840 Bafuk0 D8a840 Bast80 D7x9g0 Bast80 D7x9g0 Bast80 D8a840 Bafuk0 D8a840 Bafuk0 D8a840 Bast80 D7x9g0 Bast80
America/Menominee|LMT/-21027 CST/-21600 CDT/-18000 CWT/-18000 CPT/-18000 EST/-18000|CST6CDT,M3.2.0,M11.1.0|B-17zjvrx Cgz53bx Bast80 C7x9g0 Bast80 Dbmtus0 E1tz8c0 B2dsw0 Casys0 B7x3w0 Ca7n9g0 B9px80 F1at9g0 C2396k0 B9d1c0 C3lpg0 Bf4d80 C64g40 Bclmk0 C9d440 B9px80 C905g0 B9px80 C9d440 B9cyk0 C9d440 B9cyk0 C9d440 B9cyk0 C9d440 B9cyk0 C9d440 B9px80 C905g0 B9px80 C9d440 B9cyk0 C9d440 B9cyk0 C9d440 B9cyk0 C8a840 Bafuk0 C8a840 Bast80 C7x9g0 Bast80 C7x9g0 Bast80 C8a840 Bafuk0 C8a840 Bafuk0 C8a840 Bast80 C7x9g0 Bast80 C7x9g0 Bast80 C8a840 Bafuk0 C8a840 Bafuk0 C8a840 Bafuk0 C8a840 Bast80 C7x9g0 Bast80 C7x9g0 Bast80 C8a840 Bafuk0 C8a840 Bafuk0 C8a840 Bast80 C7x9g0 Bast80 C7x9g0 Bast80 C6udg0
America/Merida|LMT/-21508 CST/-21600 EST/-18000 CDT/-18000|CST6|B-p1u7c0 Cvb0dk0 Bfzuk0 D70bes0 Bafuk0 D8a840 Bafuk0 D8a840 Bafuk0 D8a840 Bast80 D7x9g0 Bast80 D9q2s0 B7k580 D9q2s0 Bafuk0 D8a840 Bafuk0 D8a840 Bast80 D7x9g0 Bast80 D7x9g0 Bast80 D7x9g0 Bast80 D8a840 Bafuk0 D8a840 Bafuk0 D8a840 Bast80 D7x9g0 Bast80 D7x9g0 Bast80 D8a840 Bafuk0 D8a840 Bafuk0 D8a840 Bafuk0 D8a840 Bast80 D7x9g0 Bast80 D7x9g0 Bast80 D8a840 Bafuk0 D8a840 Bafuk0 D8a840 Bast80 D7x9g0 Bast80
America/Metlakatla|LMT/54822 LMT/-31578 PST/-28800 PWT/-25200 PPT/-25200 PDT/-25200 AKST/-32400 AKDT/-28800|AKST9AKDT,M3.2.0,M11.1.0|B-1hc7qjz Ch4ytl5 Dln70qu E1tz2s0 C2dyg0 Fcawis0 C9cyk0 F9d440 C9cyk0 F9d440 C9px80 F9d440 C9cyk0 F9d440 C9cyk0 F3lpg0 Cf4d80 F64g40 Cclmk0 F9d440 C9px80 F905g0 C9px80 F9d440 C9cyk0 F9d440 C9cyk0 F9d440 C9cyk0 F9d440 C9cyk0 F9d440 C9px80 F905g0 C9px80 Ggpc840 H6udg0 Gc8nw0 H6hes0 Gc8nw0 H6hes0 Cc8nw0 G3ylc0
America/Mexico_City Mexico/General|LMT/-23796 MST/-25200 CST/-21600 MDT/-21600 CDT/-18000 CWT/-18000|CST6|B-p1u4k0 C2u5s00 B1si580 D8jhg0 B7x3w0 C9eys0 E3knek0 C776k0 Erf440 C5t6k0 F1evk40 C71mk0 E30p1g0 C8n180 Enufxo0 Cafuk0 E8a840 Cafuk0 E8a840 Cafuk0 E8a840 Cast80 E7x9g0 Cast80 E9q2s0 C7k580 E9q2s0 Cafuk0 E8a840 Cafuk0 E8a840 Cast80 E7x9g0 Cast80 E7x9g0 Cast80 E7x9g0 Cast80 E8a840 Cafuk0 E8a840 Cafuk0 E8a840 Cast80 E7x9g0 Cast80 E7x9g0 Cast80 E8a840 Cafuk0 E8a840 Cafuk0 E8a840 Cafuk0 E8a840 Cast80 E7x9g0 Cast80 E7x9g0 Cast80 E8a840 Cafuk0 E8a840 Cafuk0 E8a840 Cast80 E7x9g0 Cast80
America/Miquelon|LMT/-13480 AST/-14400 -03/-10800 -02/-7200|<-03>3<-02>,M3.2.0,M11.1.0|B-uk1k9k Czy4wpk D3m59g0 Cafuk0 D8a840 Cast80 D7x9g0 Cast80 D7x9g0 Cast80 D8a840 Cafuk0 D8a840 Cafuk0 D8a840 Cast80 D7x9g0 Cast80 D7x9g0 Cast80 D8a840 Cafuk0 D8a840 Cafuk0 D8a840 Cafuk0 D8a840 Cast80 D7x9g0 Cast80 D7x9g0 Cast80 D8a840 Cafuk0 D8a840 Cafuk0 D8a840 Cast80 D7x9g0 Cast80 D7x9g0 Cast80 D6udg0
America/Moncton|LMT/-15548 EST/-18000 AST/-14400 ADT/-10800 AWT/-10800 APT/-10800|AST4ADT,M3.2.0,M11.1.0|B-18wys04 C9nu9w4 D89fhg0 Ca2vw0 D7mqqo0 C4ofw0 De1ms0 C4ofw0 De1ms0 C4ofw0 De1ms0 C4ofw0 De1ms0 C4ofw0 De1ms0 C4ofw0 Ddmtg0 C64ak0 Dcao40 C6fek0 Dbkqs0 C7iak0 E6y5k0 F1tzdw0 C2dnc0 Dasys0 C7x3w0 Dasys0 C7x3w0 Dasys0 C7x3w0 Dasys0 C7x3w0 Db5xg0 C7k580 Db5xg0 C7x3w0 Dasys0 C7x3w0 Dasys0 C7x3w0 Dasys0 C7x3w0 Dasys0 C7x3w0 Db5xg0 C7x3w0 Dasys0 C9cyk0 D9d440 C9cyk0 D9d440 C9cyk0 D9d440 C9px80 D9d440 C9cyk0 D9d440 C9cyk0 D9d440 C9cyk0 D9d440 C9cyk0 D9d440 C9px80 D905g0 C9px80 D9d440 C9cyk0 D9d440 C9cyk0 D9d440 C9cyk0 D9d440 C9cyk0 D9d440 C9px80 D9d440 C9cyk0 Ds36s0 C9cyk0 D9d440 C9cyk0 D9d440 C9px80 D905g0 C9px80 D9d440 C9cyk0 D9d440 C9cyk0 D9d440 C9cyk0 D9d440 C9cyk0 D9d440 C9px80 D905g0 C9px80 D9d440 C9cyk0 D9d440 C9cyk0 D9d440 C9cyk0 D8a840 Cafuk0 D8a840 Cast80 D7x9g0 Cast80 D7x9g0 Cast80 D8a840 Cafuk0 D8a840 Cafuk0 D8a2lo Cast80 D7x9g0 Cast80 D7x9g0 Cast80 D8a840 Cafuk0 D8a840 Cafuk0 D8a840 Cafuk0 D8a840 Cast80 D7x9g0 Cast80 D7x9g0 Cast80 D8a840 Cafuk0 D8a840 Cafuk0 D8a840 Cast80 D7x9g0 Cast80 D7x9g0 Cast80 D6uiyc
America/Monterrey|LMT/-24076 MST/-25200 CST/-21600 MDT/-21600 CDT/-18000|CST6|B-p1u7c0 C2u5us0 B1si580 D8jhg0 B7x3w0 C9eys0 Et89k40 Cast80 E3vppg0 Cafuk0 E8a840 Cafuk0 E8a840 Cafuk0 E8a840 Cast80 E7x9g0 Cast80 E9q2s0 C7k580 E9q2s0 Cafuk0 E8a840 Cafuk0 E8a840 Cast80 E7x9g0 Cast80 E7x9g0 Cast80 E7x9g0 Cast80 E8a840 Cafuk0 E8a840 Cafuk0 E8a840 Cast80 E7x9g0 Cast80 E7x9g0 Cast80 E8a840 Cafuk0 E8a840 Cafuk0 E8a840 Cafuk0 E8a840 Cast80 E7x9g0 Cast80 E7x9g0 Cast80 E8a840 Cafuk0 E8a840 Cafuk0 E8a840 Cast80 E7x9g0 Cast80
America/Montevideo|LMT/-13491 MMT/-13491 -04/-14400 -03/-10800 -0330/-12600 -0230/-9000 -02/-7200 -0130/-5400|<-03>3|B-w4mll9 C67elc0 D1s74p9 E9et80 D9exe0 E9czy0 D9exe0 E9czy0 D3ydyq0 E7x5a0 Dasxe0 E7x5a0 Dasxe0 E7x5a0 Dasxe0 E7x5a0 Db5w20 E7k6m0 Db5w20 E7k6m0 D9q1e0 E9czy0 Dasxe0 E7x5a0 D6do20 Fppvy0 D4mmm0 F8g9qq0 D901a0 G38pe0 D2inw0 G2nf9g0 D8zzw0 F1e3s40 D9o3y0 Gq8he0 D2kik0 Gyxhg0 D4bh80 Hs36s0 F2vl60 D905g0 G5rg20 D51ek0 Gweqs0 D3yik0 Ge1ms0 D4ofw0 Gerk40 D3yik0 G2vs40 Dgk7w0 G41iys0 D3wnw0 Gerk40 D4bh80 Gc8tg0 D64ak0 Gc8tg0 D6u7w0 Gc8tg0 D6h980 Gbvus0 D6u7w0 G614qs0 D9q2s0 Ga31g0 D7x3w0 Gag040 D8a2k0 Gasys0 D7x3w0 Gasys0 D7x3w0 Gasys0 D8a2k0 Gag040 D8a2k0 Gag040 D8a2k0 Gasys0 D7x3w0 Gasys0 D7x3w0 Gasys0 D7x3w0
America/Montreal America/Nipigon America/Thunder_Bay America/Toronto Canada/Eastern|LMT/-19052 EST/-18000 EDT/-14400 EWT/-14400 EPT/-14400|EST5EDT,M3.2.0,M11.1.0|B-1353das Cc5efes Ba2vw0 C7yx60 Baqzy0 C9q8c0 B7jzo0 Cbw0c0 B6bp80 Ccedg0 B6h980 Cc8tg0 B6h980 Cbvus0 B776k0 Cbiw40 B776k0 Cbiw40 B776k0 Cbiw40 B7k580 Cb5xg0 B7x3w0 Casys0 B7x3w0 Casys0 B7x3w0 Casys0 B7x3w0 Cb5xg0 B7k580 Cb5xg0 B7x3w0 Casys0 B7x3w0 Casys0 B7x3w0 Casys0 B7x3w0 Casys0 B7x3w0 Casys0 B7x3w0 Cb5xg0 B7k580 Cb5xg0 Dxjeo0 E1tzb40 B2dq40 Casys0 B7x3w0 Casys0 B7x3w0 Casys0 B7x3w0 Casys0 Bb5rw0 C7x9g0 Bast80 C7x9g0 B7x3w0 Casys0 B7x3w0 Casys0 B7x3w0 Casys0 B7x3w0 Casys0 B7x3w0 Cb5xg0 B7x3w0 Casys0 B9cyk0 C9d440 B9cyk0 C9d440 B9cyk0 C9d440 B9px80 C9d440 B9cyk0 C9d440 B9cyk0 C9d440 B9cyk0 C9d440 B9cyk0 C9d440 B9px80 C905g0 B9px80 C9d440 B9cyk0 C9d440 B9cyk0 C9d440 B9cyk0 C9d440 B9cyk0 C9d440 B9px80 C9d440 B9cyk0 C9d440 B9cyk0 C9d440 B9cyk0 C9d440 B9cyk0 C9d440 B9px80 C905g0 B9px80 C9d440 B9cyk0 C9d440 B9cyk0 C9d440 B9cyk0 C9d440 B9cyk0 C9d440 B9px80 C905g0 B9px80 C9d440 B9cyk0 C9d440 B9cyk0 C9d440 B9cyk0 C8a840 Bafuk0 C8a840 Bast80 C7x9g0 Bast80 C7x9g0 Bast80 C8a840 Bafuk0 C8a840 Bafuk0 C8a840 Bast80 C7x9g0 Bast80 C7x9g0 Bast80 C8a840 Bafuk0 C8a840 Bafuk0 C8a840 Bafuk0 C8a840 Bast80 C7x9g0 Bast80 C7x9g0 Bast80 C8a840 Bafuk0 C8a840 Bafuk0 C8a840 Bast80 C7x9g0 Bast80 C7x9g0 Bast80 C6udg0
America/Montserrat|LMT/-14932 AST/-14400|AST4|B-uj7wfk
America/Nassau|LMT/-18570 EST/-18000 EWT/-14400 EPT/-14400 EDT/-14400|EST5EDT,M3.2.0,M11.1.0|B-u6m4c6 Cfqrow6 B1e5h80 C1lhg0 Da0nc0 B3awk0 E9o00c0 B9cyk0 E9d440 B9px80 E905g0 B9px80 E9d440 B9cyk0 E9d440 B9cyk0 E9d440 B9cyk0 E9d440 B9cyk0 E9d440 B9px80 E9d440 B9cyk0 E9d440 B9cyk0 E9d440 B9cyk0 E9d440 B9cyk0 E9d440 B9px80 E905g0 B9px80 E9d440 B9cyk0 E9d440 B9cyk0 E9d440 B9cyk0 E9d440 B9cyk0 E9d440 B9px80 E905g0 B9px80 E9d440 B9cyk0 E9d440 B9cyk0 E9d440 B9cyk0 E8a840 Bafuk0 E8a840 Bast80 E7x9g0 Bast80 E7x9g0 Bast80 E8a840 Bafuk0 E8a840 Bafuk0 E8a840 Bast80 E7x9g0 Bast80 E7x9g0 Bast80 E8a840 Bafuk0 E8a840 Bafuk0 E8a840 Bafuk0 E8a840 Bast80 E7x9g0 Bast80 E7x9g0 Bast80 E8a840 Bafuk0 E8a840 Bafuk0 E8a840 Bast80 E7x9g0 Bast80 E7x9g0 Bast80 E6udg0
America/New_York US/Eastern|LMT/-17762 EST/-18000 EDT/-14400 EWT/-14400 EPT/-14400|EST5EDT,M3.2.0,M11.1.0|B-18y0os0 Chxltk0 Bast80 C7x9g0 Bast80 C7x9g0 Bb5rw0 C905g0 B7x3w0 Cb5xg0 B7k580 Cb5xg0 B7x3w0 Casys0 B7x3w0 Casys0 B7x3w0 Casys0 B7x3w0 Casys0 B7x3w0 Cb5xg0 B7x3w0 Casys0 B7x3w0 Casys0 B7x3w0 Casys0 B7x3w0 Casys0 B7x3w0 Cb5xg0 B7k580 Cb5xg0 B7x3w0 Casys0 B7x3w0 Casys0 B7x3w0 Casys0 B7x3w0 Casys0 B7x3w0 Cb5xg0 B7k580 Cb5xg0 B7x3w0 Casys0 B7x3w0 D6w840 E1tzb40 B2dq40 Casys0 B7x3w0 Casys0 B7x3w0 Casys0 B7x3w0 Casys0 B7x3w0 Cb5xg0 B7k580 Cb5xg0 B7x3w0 Casys0 B7x3w0 Casys0 B7x3w0 Casys0 B7x3w0 Casys0 B9px80 C9d440 B9cyk0 C9d440 B9cyk0 C9d440 B9cyk0 C9d440 B9cyk0 C9d440 B9px80 C9d440 B9cyk0 C9d440 B9cyk0 C9d440 B9cyk0 C9d440 B9cyk0 C9d440 B9px80 C905g0 B9px80 C9d440 B9cyk0 C9d440 B9cyk0 C9d440 B9cyk0 C9d440 B9cyk0 C9d440 B9px80 C9d440 B9cyk0 C9d440 B9cyk0 C3lpg0 Bf4d80 C64g40 Bclmk0 C9d440 B9px80 C905g0 B9px80 C9d440 B9cyk0 C9d440 B9cyk0 C9d440 B9cyk0 C9d440 B9cyk0 C9d440 B9px80 C905g0 B9px80 C9d440 B9cyk0 C9d440 B9cyk0 C9d440 B9cyk0 C8a840 Bafuk0 C8a840 Bast80 C7x9g0 Bast80 C7x9g0 Bast80 C8a840 Bafuk0 C8a840 Bafuk0 C8a840 Bast80 C7x9g0 Bast80 C7x9g0 Bast80 C8a840 Bafuk0 C8a840 Bafuk0 C8a840 Bafuk0 C8a840 Bast80 C7x9g0 Bast80 C7x9g0 Bast80 C8a840 Bafuk0 C8a840 Bafuk0 C8a840 Bast80 C7x9g0 Bast80 C7x9g0 Bast80 C6udg0
America/Nome|LMT/46702 LMT/-39698 NST/-39600 NWT/-36000 NPT/-36000 BST/-39600 BDT/-36000 YST/-32400 AKST/-32400 AKDT/-28800|AKST9AKDT,M3.2.0,M11.1.0|B-1hc7qjz Ch4yzup Dln72ta E1tyug0 C2e6s0 Fb7yik0 G12y080 F9cyk0 G9d440 F9cyk0 G9d440 F9px80 G9d440 F9cyk0 G9d440 F9cyk0 G3lpg0 Ff4d80 G64g40 Fclmk0 G9d440 F9px80 G905g0 F9px80 G9d440 F9cyk0 G9d440 F9cyk0 G9d440 F9cyk0 G9d440 F9cyk0 G9d440 F9px80 G905g0 H9px80 I1l6c0 J7rs80 I9cyk0 J9d440 I9cyk0 J9d440 I9cyk0 J8a840 Iafuk0 J8a840 Iast80 J7x9g0 Iast80 J7x9g0 Iast80 J8a840 Iafuk0 J8a840 Iafuk0 J8a840 Iast80 J7x9g0 Iast80 J7x9g0 Iast80 J8a840 Iafuk0 J8a840 Iafuk0 J8a840 Iafuk0 J8a840 Iast80 J7x9g0 Iast80 J7x9g0 Iast80 J8a840 Iafuk0 J8a840 Iafuk0 J8a840 Iast80 J7x9g0 Iast80 J7x9g0 Iast80 J6udg0
America/Noronha Brazil/DeNoronha|LMT/-7780 -02/-7200 -01/-3600|<-02>2|B-t85lzw C99k8rw B9a9c0 C9io40 B99980 C8p65g0 B6zuo0 Cbs2o0 B67zw0 Ccjxg0 B69uk0 Ccjxg0 B4ml80 C5mf440 B49mk0 Chaas0 B316k0 Ccls40 B4ml80 Ccls40 B66580 Ccls40 B67zw0 C981s40 B6u7w0 Cbiw40 B5rbw0 Cd0lg0 B5ed80 Ccyqs0 B5ed80 Cdbpg0 B64ak0 C514g40 B7k580 Cbiw40 Bcvw0 Ciq5g0 B6h980
America/North_Dakota/Beulah|LMT/-24427 MST/-25200 MDT/-21600 MWT/-21600 MPT/-21600 CST/-21600|CST6CDT,M3.2.0,M11.1.0|B-18y0j80 Chxltk0 Bast80 C7x9g0 Bast80 Dbmtus0 E1tz5k0 B2dvo0 Cb9gdg0 B9cyk0 C9d440 B9cyk0 C9d440 B9cyk0 C9d440 B9cyk0 C9d440 B9px80 C9d440 B9cyk0 C9d440 B9cyk0 C3lpg0 Bf4d80 C64g40 Bclmk0 C9d440 B9px80 C905g0 B9px80 C9d440 B9cyk0 C9d440 B9cyk0 C9d440 B9cyk0 C9d440 B9cyk0 C9d440 B9px80 C905g0 B9px80 C9d440 B9cyk0 C9d440 B9cyk0 C9d440 B9cyk0 C8a840 Bafuk0 C8a840 Bast80 C7x9g0 Bast80 C7x9g0 Bast80 C8a840 Bafuk0 C8a840 Bafuk0 C8a840 Bast80 C7x9g0 Bast80 C7x9g0 Bast80 C8a840 Bafuk0 C8a840 Bafuk0 C8a840 Bafuk0 C8a840 Bast80 C7x9g0 Bast80 C7x9g0 Bast80 C8a840 Bafuk0 C8a840 Bafuk0 C8a840 Bast80 C7x9g0 Bast80 C7x9g0 Bast80 C6udg0 Bc8nw0 C6hes0 Bc8nw0 C6hes0 Bc8nw0 C6udg0 Fc8nw0
America/North_Dakota/Center|LMT/-24312 MST/-25200 MDT/-21600 MWT/-21600 MPT/-21600 CST/-21600 CDT/-18000|CST6CDT,M3.2.0,M11.1.0|B-18y0j80 Chxltk0 Bast80 C7x9g0 Bast80 Dbmtus0 E1tz5k0 B2dvo0 Cb9gdg0 B9cyk0 C9d440 B9cyk0 C9d440 B9cyk0 C9d440 B9cyk0 C9d440 B9px80 C9d440 B9cyk0 C9d440 B9cyk0 C3lpg0 Bf4d80 C64g40 Bclmk0 C9d440 B9px80 C905g0 B9px80 C9d440 B9cyk0 C9d440 B9cyk0 C9d440 B9cyk0 C9d440 B9cyk0 C9d440 B9px80 C905g0 B9px80 C9d440 B9cyk0 C9d440 B9cyk0 C9d440 B9cyk0 C8a840 Bafuk0 C8a840 Bast80 C7x9g0 Bast80 C7x9g0 Bast80 C8a840 Bafuk0 C8a840 Fafuk0 G8a5c0 Fast80 G7x9g0 Fast80 G7x9g0 Fast80 G8a840 Fafuk0 G8a840 Fafuk0 G8a840 Fafuk0 G8a840 Fast80 G7x9g0 Fast80 G7x9g0 Fast80 G8a840 Fafuk0 G8a840 Fafuk0 G8a840 Fast80 G7x9g0 Fast80 G7x9g0 Fast80 G6udg0
America/North_Dakota/New_Salem|LMT/-24339 MST/-25200 MDT/-21600 MWT/-21600 MPT/-21600 CST/-21600 CDT/-18000|CST6CDT,M3.2.0,M11.1.0|B-18y0j80 Chxltk0 Bast80 C7x9g0 Bast80 Dbmtus0 E1tz5k0 B2dvo0 Cb9gdg0 B9cyk0 C9d440 B9cyk0 C9d440 B9cyk0 C9d440 B9cyk0 C9d440 B9px80 C9d440 B9cyk0 C9d440 B9cyk0 C3lpg0 Bf4d80 C64g40 Bclmk0 C9d440 B9px80 C905g0 B9px80 C9d440 B9cyk0 C9d440 B9cyk0 C9d440 B9cyk0 C9d440 B9cyk0 C9d440 B9px80 C905g0 B9px80 C9d440 B9cyk0 C9d440 B9cyk0 C9d440 B9cyk0 C8a840 Bafuk0 C8a840 Bast80 C7x9g0 Bast80 C7x9g0 Bast80 C8a840 Bafuk0 C8a840 Bafuk0 C8a840 Bast80 C7x9g0 Bast80 C7x9g0 Bast80 C8a840 Bafuk0 C8a840 Bafuk0 C8a840 Bafuk0 C8a840 Bast80 C7x9g0 Bast80 C7x9g0 Bast80 C8a840 Bafuk0 C8a840 Fafuk0 G8a5c0 Fast80 G7x9g0 Fast80 G7x9g0 Fast80 G6udg0
America/Ojinaga|LMT/-25060 MST/-25200 CST/-21600 MDT/-21600 CDT/-18000|CST6CDT,M3.2.0,M11.1.0|B-p1u4k0 C2u5s00 B1si580 D8jhg0 B7x3w0 C9eys0 Exes2s0 Cafuk0 E8a840 Cafuk0 D8aaw0 Bafuk0 D8a840 Bast80 D7x9g0 Bast80 D9q2s0 B7k580 D9q2s0 Bafuk0 D8a840 Bafuk0 D8a840 Bast80 D7x9g0 Bast80 D7x9g0 Bast80 D7x9g0 Bast80 D8a840 Bafuk0 D8a840 Bafuk0 D77c40 Bc8nw0 D6hes0 Bc8nw0 D6hes0 Bc8nw0 D6hes0 Bc8nw0 D6hes0 Bc8nw0 D6hes0 Bc8nw0 D6udg0 Bc8nw0 D6hes0 Bc8nw0 D6hes0 Bc8nw0 D6hes0 Bc8nw0 D6hes0 Bc8nw0 D6udg0 Bc8nw0 D6hes0 Cbvp80 E6uao0
America/Panama|LMT/-19088 CMT/-19176 EST/-18000|EST5|B-15r0uls C9jvmqg
America/Paramaribo|LMT/-13240 PMT/-13252 PMT/-13236 -0330/-12600 -03/-10800|<-03>3|B-usj4g8 Ccixc0c D5lydbk Ekcrm6c
America/Phoenix US/Arizona|LMT/-26898 MST/-25200 MDT/-21600 MWT/-21600|MST7|B-18y0j80 Chxltk0 Bast80 C7x9g0 Bast80 Dbmtus0 Bzjedo D4olg0 B9et80 Cbs6lmc B9cyk0
America/Port-au-Prince|LMT/-17360 PPMT/-17340 EST/-18000 EDT/-14400|EST5EDT,M3.2.0,M11.1.0|B-15r0vxs Ce4gmng Dylcf6c C8zzw0 D9d440 C9cyk0 D9d440 C9cyk0 D9d440 C9cyk0 D9d440 C9cyk0 D8aaw0 Casw00 D7x6o0 Casw00 D7x6o0 Casw00 D8a5c0 Cafxc0 D8a5c0 Cafxc0 D8a5c0 Casw00 D7x6o0 Casw00 D7x6o0 Casw00 D8a5c0 Cafxc0 D8a5c0 Cafxc0 D3vpjw0 Cast80 D7x9g0 Cast80 D2stv00 Cc8nw0 D6hes0 Cc8nw0 D6hes0 Cc8nw0 D6hes0 Cc8nw0 Dpkg40
America/Porto_Acre America/Rio_Branco Brazil/Acre|LMT/-16272 -05/-18000 -04/-14400|<-05>5|B-t85fg0 C99kak0 B9a9c0 C9io40 B99980 C8p65g0 B6zuo0 Cbs2o0 B67zw0 Ccjxg0 B69uk0 Ccjxg0 B4ml80 C5mf440 B49mk0 Chaas0 B316k0 Ccls40 B4ml80 Ccls40 B66580 Ccls40 B67zw0 C981s40 B6u7w0 Cbiw40 B5rbw0 Cd0lg0 B5ed80 Camves0 B2t2t80
America/Porto_Velho|LMT/-15336 -04/-14400 -03/-10800|<-04>4|B-t85g60 C99k8i0 B9a9c0 C9io40 B99980 C8p65g0 B6zuo0 Cbs2o0 B67zw0 Ccjxg0 B69uk0 Ccjxg0 B4ml80 C5mf440 B49mk0 Chaas0 B316k0 Ccls40 B4ml80 Ccls40 B66580 Ccls40 B67zw0 C981s40 B6u7w0 Cbiw40 B5rbw0 Cd0lg0 B5ed80
America/Puerto_Rico|LMT/-15865 AST/-14400 AWT/-10800 APT/-10800|AST4|B-10xhp3b Cmhp1jb D1ppu40 B2dnc0
America/Punta_Arenas|LMT/-17020 SMT/-16965 -05/-18000 -04/-14400 -03/-10800|<-03>3|B-15r0w78 Cag6lah B3dlssr D157b79 Bf4e0r D49hzb9 Caye0r D7ves0 Cawik0 D7ves0 Cawik0 D7ves0 Cawik0 D7ves0 Cayd80 D7ves0 C534ik0 D351g0 C2fnh80 D2mg00 Eb73400 D7k580 Ec8tg0 D6h980 Ea31g0 D7x3w0 Easys0 D7x3w0 Eb5xg0 D7k580 Eag040 D8a2k0 Eb5xg0 D7k580 Eb5xg0 D7x3w0 Easys0 D7x3w0 Easys0 D7x3w0 Eb5xg0 D7k580 Eb5xg0 D7k580 Eb5xg0 D7x3w0 Easys0 D7x3w0 Easys0 D7x3w0 Easys0 D7x3w0 Eb5xg0 D7k580 Eb5xg0 D7k580 Eb5xg0 D9cyk0 E9d440 D7x3w0 Easys0 D7x3w0 Eb5xg0 D7k580 E9q2s0 D8zzw0 Eb5xg0 D7x3w0 Easys0 D7x3w0 Easys0 D7x3w0 Easys0 D7x3w0 Eb5xg0 D7k580 Eb5xg0 D8n180 Ea31g0 D7x3w0 Ea31g0 D9px80 E9q2s0 D7x3w0 Eb5xg0 D7k580 Eb5xg0 D7k580 Eb5xg0 D7k580 Eb5xg0 D7x3w0 Easys0 D7x3w0 Easys0 D7x3w0 Eb5xg0 D7k580 Eb5xg0 D8n180 Ea31g0 D7x3w0 Easys0 D8zzw0 E9q2s0 Dast80 E5eis0 Dcyl80 E6hes0 Dc8nw0 E6udg0 Dbvp80 E6udg0 Dvonw0 E4olg0
America/Rainy_River America/Winnipeg Canada/Central|LMT/-23316 CST/-21600 CDT/-18000 CWT/-18000 CPT/-18000|CST6CDT,M3.2.0,M11.1.0|B-171bfcc Cf0j80c B7k580 Ctj700 Ba2vw0 C9ok840 B6u7w0 D2a5hg0 E1tz8c0 B2dsw0 Cbiw40 B7x3w0 Ca31g0 B7x3w0 Casys0 B7x3w0 Casys0 B7x3w0 Cb7s40 B7tek0 Cautg0 B7x3w0 Casys0 B7x3w0 Casys0 B7x3w0 Casys0 B7x3w0 Casys0 B7x3w0 Cb5xg0 B7x3w0 Casys0 B7x3w0 Casys0 B7x3w0 Casys0 B9cyk0 C9d440 B7x3w0 C1cm2s0 B7k580 C1cm2s0 B9q000 C9d1c0 B9d1c0 C9d1c0 B9d1c0 C9d1c0 B9d1c0 C9d1c0 B9d1c0 C9d1c0 B9q000 C9d1c0 B9d1c0 C9d1c0 B9d1c0 C9d1c0 B9d1c0 C9d1c0 B9d1c0 C9d1c0 B9q000 C902o0 B9q000 C9d1c0 B9d1c0 C9d1c0 B9d1c0 C9d1c0 B9d1c0 C9d1c0 B9d1c0 C9d1c0 B9q000 C902o0 B9q000 C9d1c0 B9d1c0 C9d1c0 B9d1c0 C9d1c0 B9d1c0 C8a5c0 Bafxc0 C8a5c0 Basw00 C7x6o0 Basw00 C7x6o0 Basw00 C8a5c0 Bafxc0 C8a5c0 Bafxc0 C8a5c0 Basw00 C7x6o0 Basw00 C7x6o0 Basw00 C8a5c0 Bafxc0 C8a5c0 Bafxc0 C8a5c0 Bafxc0 C8a5c0 Basw00 C7x6o0 Basw00 C7x6o0 Basw00 C8a5c0 Bafxc0 C8a5c0 Bafxc0 C8a5c0 Basw00 C7x6o0 Basw00 C7x6o0 Bast80 C6udg0
America/Rankin_Inlet|-00/0 CST/-21600 CDT/-18000 EST/-18000|CST6CDT,M3.2.0,M11.1.0|B-6s8lc0 C7zza80 B9cyk0 C9d440 B9cyk0 C9d440 B9cyk0 C9d440 B9cyk0 C9d440 B9px80 C905g0 B9px80 C9d440 B9cyk0 C9d440 B9cyk0 C9d440 B9cyk0 C9d440 B9cyk0 C9d440 B9px80 C905g0 B9px80 C9d440 B9cyk0 C9d440 B9cyk0 C9d440 B9cyk0 C8a840 Bafuk0 C8a840 Bast80 C7x9g0 Bast80 C7x9g0 Bast80 C8a840 Bafuk0 C8a840 Bafuk0 C8a840 Bast80 C7x9g0 Bast80 C7x9g0 Bast80 C8a840 Bafuk0 C8a840 Bafuk0 C8a840 Bafuk0 C8a840 Bast80 C7x9g0 Dast80 C7x9g0 Bast80 C8a840 Bafuk0 C8a840 Bafuk0 C8a840 Bast80 C7x9g0 Bast80 C7x9g0 Bast80 C6udg0
America/Recife|LMT/-8376 -03/-10800 -02/-7200|<-03>3|B-t85ljc C99kb3c B9a9c0 C9io40 B99980 C8p65g0 B6zuo0 Cbs2o0 B67zw0 Ccjxg0 B69uk0 Ccjxg0 B4ml80 C5mf440 B49mk0 Chaas0 B316k0 Ccls40 B4ml80 Ccls40 B66580 Ccls40 B67zw0 C981s40 B6u7w0 Cbiw40 B5rbw0 Cd0lg0 B5ed80 Ccyqs0 B5ed80 Cdbpg0 B64ak0 C514g40 B7k580 Cbiw40 Bcvw0 Ciq5g0 B6h980
America/Regina Canada/Saskatchewan|LMT/-25116 MST/-25200 MDT/-21600 MWT/-21600 MPT/-21600 CST/-21600|CST6|B-xkq9yc C6l1hmc Ba2vw0 C60enw0 B7x3w0 Casys0 B7x3w0 Casys0 B7x3w0 Cb5xg0 B7k580 Cb5xg0 B7x3w0 C1b6840 B9cyk0 C9d440 B8zzw0 C9q2s0 B9cyk0 C9q2s0 B9cyk0 C9d440 B9cyk0 D66gc0 E1tz5k0 B2dvo0 Ca31g0 B9cyk0 Ca31g0 B7x3w0 Casys0 B7x3w0 Casys0 B7x3w0 Cb5xg0 B7k580 Cb5xg0 B7x3w0 Casys0 B7x3w0 Casys0 B7x3w0 Casys0 B7x3w0 Casys0 B7x3w0 Cb5xg0 B7x3w0 Casys0 B7x3w0 Ctj1g0 B9cyk0 F9d440
America/Resolute|-00/0 CST/-21600 CDT/-18000 EST/-18000|CST6CDT,M3.2.0,M11.1.0|B-bnp9c0 Ccvfy80 B9cyk0 C9d440 B9cyk0 C9d440 B9cyk0 C9d440 B9cyk0 C9d440 B9px80 C905g0 B9px80 C9d440 B9cyk0 C9d440 B9cyk0 C9d440 B9cyk0 C9d440 B9cyk0 C9d440 B9px80 C905g0 B9px80 C9d440 B9cyk0 C9d440 B9cyk0 C9d440 B9cyk0 C8a840 Bafuk0 C8a840 Bast80 C7x9g0 Bast80 C7x9g0 Bast80 C8a840 Bafuk0 C8a840 Bafuk0 C8a840 Bast80 C7x9g0 Bast80 C7x9g0 Bast80 C8a840 Bafuk0 C8a840 Bafuk0 C8a840 Bafuk0 C8a840 Bast80 C7x9g0 Dast80 C7x9g0 Bast80 C8a840 Bafuk0 C8a840 Bafuk0 C8a840 Bast80 C7x9g0 Bast80 C7x9g0 Dast80 C6udg0
America/Santarem|LMT/-13128 -04/-14400 -03/-10800|<-03>3|B-t85hvc C99ka7c B9a9c0 C9io40 B99980 C8p65g0 B6zuo0 Cbs2o0 B67zw0 Ccjxg0 B69uk0 Ccjxg0 B4ml80 C5mf440 B49mk0 Chaas0 B316k0 Ccls40 B4ml80 Ccls40 B66580 Ccls40 B67zw0 C981s40 B6u7w0 Cbiw40 B5rbw0 Cd0lg0 B5ed80 Camves0
America/Santiago Chile/Continental|LMT/-16965 SMT/-16965 -05/-18000 -04/-14400 -03/-10800|<-04>4<-03>,M9.1.6/24,M4.1.6/24|B-15r0w8r Cag6lc0 B3dlssr D157b79 Bf4e0r D49hzb9 Caye0r D7ves0 Cawik0 D7ves0 Cawik0 D7ves0 Cawik0 D7ves0 Cayd80 D7ves0 C534ik0 D351g0 E229zw0 D2b980 Cb2840 D2mg00 Eb73400 D7k580 Ec8tg0 D6h980 Ea31g0 D7x3w0 Easys0 D7x3w0 Eb5xg0 D7k580 Eag040 D8a2k0 Eb5xg0 D7k580 Eb5xg0 D7x3w0 Easys0 D7x3w0 Easys0 D7x3w0 Eb5xg0 D7k580 Eb5xg0 D7k580 Eb5xg0 D7x3w0 Easys0 D7x3w0 Easys0 D7x3w0 Easys0 D7x3w0 Eb5xg0 D7k580 Eb5xg0 D7k580 Eb5xg0 D9cyk0 E9d440 D7x3w0 Easys0 D7x3w0 Eb5xg0 D7k580 E9q2s0 D8zzw0 Eb5xg0 D7x3w0 Easys0 D7x3w0 Easys0 D7x3w0 Easys0 D7x3w0 Eb5xg0 D7k580 Eb5xg0 D8n180 Ea31g0 D7x3w0 Ea31g0 D9px80 E9q2s0 D7x3w0 Eb5xg0 D7k580 Eb5xg0 D7k580 Eb5xg0 D7k580 Eb5xg0 D7x3w0 Easys0 D7x3w0 Easys0 D7x3w0 Eb5xg0 D7k580 Eb5xg0 D8n180 Ea31g0 D7x3w0 Easys0 D8zzw0 E9q2s0 Dast80 E5eis0 Dcyl80 E6hes0 Dc8nw0 E6udg0 Dbvp80 E6udg0 Dvonw0 E4olg0 De1h80 E4olg0 De1h80 E4olg0 Dc8nw0 E7x9g0 Dast80 E7x9g0 Dast80 E7x9g0 Dast80 E8a840
America/Santo_Domingo|LMT/-16776 SDMT/-16800 EST/-18000 EDT/-14400 -0430/-16200 AST/-14400|AST4|B-15r0we0 Cmkixco Dhiw29c C67zw0 E1dy840 C62ha0 Ecnle0 C4h2m0 Eelyq0 C47ta0 Eei9e0 C4bim0 Eeek20 C4dda0 Fecpe0 Cdkmtg0 F1stc0
America/Sao_Paulo Brazil/East|LMT/-11188 -03/-10800 -02/-7200|<-03>3|B-t85jd8 C99k8x8 B9a9c0 C9io40 B99980 C8p65g0 B6zuo0 Cbs2o0 B67zw0 Ccjxg0 B69uk0 Ccjxg0 B4ml80 C5k02s0 B6onw0 Chaas0 B316k0 Ccls40 B4ml80 Ccls40 B66580 Ccls40 B67zw0 C981s40 B6u7w0 Cbiw40 B5rbw0 Cd0lg0 B5ed80 Ccyqs0 B5ed80 Cdbpg0 B64ak0 Ccyqs0 B64ak0 Ccls40 B5rbw0 Cdbpg0 B51ek0 Cdbpg0 B6h980 Cc8tg0 B6h980 Cc8tg0 B64ak0 Cc8tg0 B6u7w0 Cbxpg0 B7iak0 Cbiw40 B6u7w0 Cbiw40 B7k580 Cbiw40 B6u7w0 Cc8tg0 B6h980 Cdbpg0 B5ed80 Ccls40 B64ak0 Cdfes0 B5nmk0 Cc8tg0 B6h980 Cdbpg0 B5rbw0 Cbvus0 B6h980 Ccls40 B64ak0 Ccls40 B6h980 Cc8tg0 B6h980 Cc8tg0 B6u7w0 Cc8tg0 B64ak0 Ccls40 B64ak0 Ccls40 B6h980 Cc8tg0 B6h980 Cc8tg0 B6h980 Cc8tg0 B6h980 Cdbpg0 B5ed80
America/Scoresbysund|LMT/-5272 -02/-7200 -01/-3600 +00/0|<-02>2<-01>,M3.5.0/-1,M10.5.0/0|B-rvurxk Cx8ntpk B902o0 D9cvs0 C9cyk0 D9d1c0 C9d1c0 D9d1c0 C9d1c0 D9d1c0 C9q000 D9d1c0 C9d1c0 D9d1c0 C9d1c0 D9d1c0 C9d1c0 D9d1c0 C9d1c0 D9d1c0 C9d1c0 D9d1c0 C9q000 D9d1c0 C9d1c0 D9d1c0 C9d1c0 D9d1c0 C9d1c0 D9d1c0 C9d1c0 D9d1c0 C9d1c0 D9q000 Casw00 D7x6o0 Casw00 D7x6o0 Casw00 D7x6o0 Cb5uo0 D7k800 Cb5uo0 D7k800 Cb5uo0 D7x6o0 Casw00 D7x6o0 Casw00 D7x6o0 Cb5uo0 D7k800 Cb5uo0 D7k800 Cb5uo0 D7k800 Cb5uo0 D7x6o0 Casw00 D7x6o0 Casw00 D7x6o0 Cb5uo0 D7k800 Cb5uo0 D7k800 Cb5uo0 D7x6o0 Casw00 D7x6o0 Casw00 D7x6o0 Casw00 D7x6o0 Cb5uo0 D7k800 Cb5uo0 D7k800 Cb5uo0 D7x6o0 Casw00 D7x6o0 Casw00 D7x6o0 Cb5uo0 D7k800 Cb5uo0 D7k800 Cb5uo0 C7x6o0
America/Sitka|LMT/53927 LMT/-32473 PST/-28800 PWT/-25200 PPT/-25200 PDT/-25200 YST/-32400 AKST/-32400 AKDT/-28800|AKST9AKDT,M3.2.0,M11.1.0|B-1hc7qjz Ch4yua0 Dln701z E1tz2s0 C2dyg0 Fcawis0 C9cyk0 F9d440 C9cyk0 F9d440 C9px80 F9d440 C9cyk0 F9d440 C9cyk0 F3lpg0 Cf4d80 F64g40 Cclmk0 F9d440 C9px80 F905g0 C9px80 F9d440 C9cyk0 F9d440 C9cyk0 F9d440 C9cyk0 F9d440 C9cyk0 F9d440 C9px80 F905g0 G9px80 H1leo0 I7rs80 H9cyk0 I9d440 H9cyk0 I9d440 H9cyk0 I8a840 Hafuk0 I8a840 Hast80 I7x9g0 Hast80 I7x9g0 Hast80 I8a840 Hafuk0 I8a840 Hafuk0 I8a840 Hast80 I7x9g0 Hast80 I7x9g0 Hast80 I8a840 Hafuk0 I8a840 Hafuk0 I8a840 Hafuk0 I8a840 Hast80 I7x9g0 Hast80 I7x9g0 Hast80 I8a840 Hafuk0 I8a840 Hafuk0 I8a840 Hast80 I7x9g0 Hast80 I7x9g0 Hast80 I6udg0
America/St_Johns Canada/Newfoundland|LMT/-12652 NST/-12652 NDT/-9052 NST/-12600 NDT/-9000 NWT/-9000 NPT/-9000 NDDT/-5400|NST3:30NDT,M3.2.0,M11.1.0|B-18vs8wk Chd05k0 B8bx80 Car440 Ba2vw0 C9tjs0 B53980 Cdkys0 B9cyk0 C9d440 B9cyk0 C9q2s0 B8zzw0 C9q2s0 B8zzw0 C9q2s0 B8zzw0 C9q2s0 B8zzw0 C9q2s0 B9cyk0 C9d440 B9cyk0 C9q2s0 B8zzw0 C9q2s0 B8zzw0 C9q2s0 B8zzw0 C9q2s0 B8zzw0 C9q2s0 B9cyk0 C9q2s0 B8zzw0 C9q2s0 B8zzw0 D7tmw0 E1wfuk D8zzw0 Ea3480 D7k580 Eb5xg0 D7k580 Eb5xg0 D7k580 Ebiw40 D776k0 Ebiw40 D7k580 Eb5xg0 D7k580 Fb5xg0 G1pb260 D2dly0 Ebiw40 D7k580 Eb5xg0 D7k580 Eb5xg0 D7k580 Eb5xg0 D7k580 Ebiw40 D7k580 Eag040 D7x3w0 Easys0 D7x3w0 Easys0 D7x3w0 Easys0 D7x3w0 Easys0 D7x3w0 Eb5xg0 D7x3w0 Easys0 D7x3w0 Easys0 D7x3w0 Easys0 D7x3w0 Easys0 D9px80 E9d440 D9cyk0 E9d440 D9cyk0 E9d440 D9cyk0 E9d440 D9cyk0 E9d440 D9px80 E905g0 D9px80 E9d440 D9cyk0 E9d440 D9cyk0 E9d440 D9cyk0 E9d440 D9cyk0 E9d440 D9px80 E9d440 D9cyk0 E9d440 D9cyk0 E9d440 D9cyk0 E9d440 D9cyk0 E9d440 D9px80 E905g0 D9px80 E9d440 D9cyk0 E9d440 D9cyk0 E9d440 D9cyk0 E9d440 D9cyk0 E9d440 D9px80 E905g0 D9px80 E9d440 D9cyk0 E9d440 D9cyk0 E9d440 D9cyk0 E8a2lo Dafuk0 H8a840 Dasqg0 E7xc80 Dast80 E7x9g0 Dast80 E8a840 Dafuk0 E8a840 Dafuk0 E8a840 Dast80 E7x9g0 Dast80 E7x9g0 Dast80 E8a840 Dafuk0 E8a840 Dafuk0 E8a840 Dafuk0 E8a840 Dast80 E7x9g0 Dast80 E7x9g0 Dast80 E8a840 Dafuk0 E8a840 Dafuk0 E8a840 Dast80 E7x9g0 Dast80 E7x9g0 Dast80 E6udg0 Dc8nw0 E6hes0 Dc8nw0 E6hes0 Dc8nw0 E6udg0 Dc8nw0 E6hes0 Dc8tec
America/St_Kitts|LMT/-15052 AST/-14400|AST4|B-u6m71w
America/St_Lucia|LMT/-14640 CMT/-14640 AST/-14400|AST4|B-15r0y1c Cbh9s00
America/St_Thomas America/Virgin|LMT/-15584 AST/-14400|AST4|B-uj7vz4
America/St_Vincent|LMT/-14696 KMT/-14696 AST/-14400|AST4|B-15r0xzs Cbh9s00
America/Swift_Current|LMT/-25880 MST/-25200 MDT/-21600 MWT/-21600 MPT/-21600 CST/-21600|CST6|B-xkq9d4 C6l1h14 Ba2vw0 Dc5jxg0 E1tz5k0 B2dvo0 Casys0 B8n180 Ca31g0 B7x3w0 Casys0 B7x3w0 Casys0 B7x3w0 C3yles0 B9cyk0 Cs36s0 B9cyk0 C9d440 B7x3w0 Cb5xg0 B7k580 F5j4lg0
America/Tegucigalpa|LMT/-20932 CST/-21600 CDT/-18000|CST6|B-pfzh6k Cyho0ik B7k580 Cb5xg0 B7k580 C96x1g0 B4qak0
America/Thule|LMT/-16508 AST/-14400 ADT/-10800|AST4ADT,M3.2.0,M11.1.0|B-rvuj9g C12yzilg B9cyk0 C9d440 B9cyk0 C9q2s0 Bast80 C7x9g0 Bast80 C7x9g0 Bast80 C8a840 Bafuk0 C8a840 Bafuk0 C8a840 Bafuk0 C8a840 Bast80 C7x9g0 Bast80 C7x9g0 Bast80 C8a840 Bafuk0 C8a840 Bafuk0 C8a840 Bast80 C7x9g0 Bast80 C7x9g0 Bast80 C6udg0
America/Tortola|LMT/-15508 AST/-14400|AST4|B-uj7w18
America/Vancouver Canada/Pacific|LMT/-29548 PST/-28800 PDT/-25200 PWT/-25200 PPT/-25200|PST8PDT,M3.2.0,M11.1.0|B-18vrvv8 Chw36b8 Ba2vw0 Dc5jxg0 E1tz2s0 B2dyg0 Casys0 B7x3w0 Casys0 B7x3w0 Casys0 B7x3w0 Casys0 B7x3w0 Cb5xg0 B7k580 Cb5xg0 B7x3w0 Casys0 B7x3w0 Casys0 B7x3w0 Casys0 B7x3w0 Casys0 B7x3w0 Cb5xg0 B7x3w0 Casys0 B7x3w0 Casys0 B7x3w0 Casys0 B7x3w0 Casys0 B7x3w0 Cb5xg0 B7k580 Cb5xg0 B9cyk0 C9d440 B9cyk0 C9d440 B9cyk0 C9d440 B9px80 C905g0 B9px80 C9d440 B9cyk0 C9d440 B9cyk0 C9d440 B9cyk0 C9d440 B9cyk0 C9d440 B9px80 C9d440 B9cyk0 C9d440 B9cyk0 C9d440 B9cyk0 C9d440 B9cyk0 C9d440 B9px80 C905g0 B9px80 C9d440 B9cyk0 C9d440 B9cyk0 C9d440 B9cyk0 C9d440 B9cyk0 C9d440 B9px80 C905g0 B9px80 C9d440 B9cyk0 C9d440 B9cyk0 C9d440 B9cyk0 C8a840 Bafuk0 C8a840 Bast80 C7x9g0 Bast80 C7x9g0 Bast80 C8a840 Bafuk0 C8a840 Bafuk0 C8a840 Bast80 C7x9g0 Bast80 C7x9g0 Bast80 C8a840 Bafuk0 C8a840 Bafuk0 C8a840 Bafuk0 C8a840 Bast80 C7x9g0 Bast80 C7x9g0 Bast80 C8a840 Bafuk0 C8a840 Bafuk0 C8a840 Bast80 C7x9g0 Bast80 C7x9g0 Bast80 C6udg0
America/Whitehorse Canada/Yukon|LMT/-32412 YST/-32400 YDT/-28800 YWT/-28800 YPT/-28800 YDDT/-25200 PST/-28800 PDT/-25200 MST/-25200|MST7|B-1079tno C97l6vo Ba2vw0 Casys0 B882c0 Dbmiwc0 E1tz000 B2e180 Fa7n3w0 B9q000 G64dc0 H7e3pg0 G9cyk0 H9d440 G9cyk0 H9d440 G9px80 H905g0 G9px80 H9d440 G9cyk0 H9d440 G9cyk0 H9d440 G9cyk0 H8a840 Gafuk0 H8a840 Gast80 H7x9g0 Gast80 H7x9g0 Gast80 H8a840 Gafuk0 H8a840 Gafuk0 H8a840 Gast80 H7x9g0 Gast80 H7x9g0 Gast80 H8a840 Gafuk0 H8a840 Gafuk0 H8a840 Gafuk0 H8a840 Gast80 H7x9g0 Gast80 H7x9g0 Gast80 H8a840 Gafuk0 H8a840 Gafuk0 H8a840 Gast80 H7x9g0 Gast80 H7x9g0 Gast80 H6udg0 Gc8nw0 H6hes0 Gc8nw0 H6hes0 Gc8nw0 H6udg0 Gc8nw0 H6hes0 Gc8nw0 H6hes0 Gc8nw0 H6hes0 Gc8nw0 H6hes0 Gc8nw0 H6hes0 Gc8nw0 H6udg0 Gc8nw0 H6hes0 Gc8nw0 H6hes0 Gc8nw0 H6hes0 Gc8nw0 H6hes0 Ic8ic0
America/Yakutat|LMT/52865 LMT/-33535 YST/-32400 YWT/-28800 YPT/-28800 YDT/-28800 AKST/-32400 AKDT/-28800|AKST9AKDT,M3.2.0,M11.1.0|B-1hc7qjz Ch4yv3i Dln720h E1tz000 C2e180 Fcawis0 C9cyk0 F9d440 C9cyk0 F9d440 C9px80 F9d440 C9cyk0 F9d440 C9cyk0 F3lpg0 Cf4d80 F64g40 Cclmk0 F9d440 C9px80 F905g0 C9px80 F9d440 C9cyk0 F9d440 C9cyk0 F9d440 C9cyk0 F9d440 C9cyk0 F9d440 C9px80 F905g0 C9px80 G1lbw0 H7rs80 G9cyk0 H9d440 G9cyk0 H9d440 G9cyk0 H8a840 Gafuk0 H8a840 Gast80 H7x9g0 Gast80 H7x9g0 Gast80 H8a840 Gafuk0 H8a840 Gafuk0 H8a840 Gast80 H7x9g0 Gast80 H7x9g0 Gast80 H8a840 Gafuk0 H8a840 Gafuk0 H8a840 Gafuk0 H8a840 Gast80 H7x9g0 Gast80 H7x9g0 Gast80 H8a840 Gafuk0 H8a840 Gafuk0 H8a840 Gast80 H7x9g0 Gast80 H7x9g0 Gast80 H6udg0
Antarctica/Casey|-00/0 +08/28800 +11/39600|<+08>-8|B-irxc0 Clag4o0 B73bo0 Cuz1o0 B60l80 C2fnh80 Bpz9g0 Cat4c0 B89u80 Cacgc0 B80no0 Casw1o B89wyc Cag5po B89wyc Cag5po B84lac
Antarctica/Davis|-00/0 +07/25200 +05/18000|<+07>-7|B-6rmdc0 A42jdw0 B27wgs0 Cl8uss0 B7eqs0 Cunmk0 B60qs0
Antarctica/DumontDUrville|-00/0 +10/36000|<+10>-10|B-c05eo0 A2mks80 B2i72g0
Antarctica/Macquarie|-00/0 AEST/36000 AEDT/39600|AEST-10AEDT,M10.1.0,M4.1.0/3|B-10mb9c0 C8ts4g0 B902o0 A11wns0 Bf4kh40 Ca6p8g0 B9d1c0 Casw00 B6uao0 Cbvs00 B6uao0 Cbvs00 B779c0 Cbvs00 B64dc0 Cclpc0 B6hc00 Cc8qo0 B6hc00 Cc8qo0 B6hc00 Cc8qo0 B6uao0 Cc8qo0 B6hc00 Cc8qo0 B6hc00 Cc8qo0 B6hc00 Cc8qo0 B6hc00 Cc8qo0 B6hc00 Cc8qo0 B7x6o0 Cb5uo0 B7k800 Cb5uo0 B6hc00 Cc8qo0 B6hc00 Cc8qo0 B6hc00 Cbvs00 B7k800 Cbitc0 B7k800 Cbitc0 B779c0 Cbitc0 B779c0 Cbitc0 B7x6o0 C9q000 B902o0 C9q000 B902o0 C9q000 B902o0 C9q000 B902o0 C9q000 B9d1c0 C9q000 B902o0 C9q000 B902o0 C9q000 B902o0 C9q000 B902o0 C7x6o0 Basw00 Ca2yo0 B902o0 C9q000 B902o0 C9q000 B902o0 C9q000 B902o0 C9q000 B9d1c0 C9d1c0 B902o0 Ca2yo0 B9d1c0 C9d1c0 B9d1c0 C9d1c0 Bs3400
Antarctica/Mawson|-00/0 +06/21600 +05/18000|<+05>-5|B-8aelc0 Ct22y80
Antarctica/McMurdo|-00/0 NZST/43200 NZDT/46800|NZST-12NZDT,M9.5.0,M4.1.0/3|B-7b2dc0 C9txtk0 B5reo0 Cclpc0 B6uao0 Cc8qo0 B6hc00 Cc8qo0 B6hc00 Cc8qo0 B6hc00 Cc8qo0 B6hc00 Cc8qo0 B6hc00 Cc8qo0 B6uao0 Cc8qo0 B6hc00 Cc8qo0 B6hc00 Cc8qo0 B6hc00 Cc8qo0 B6hc00 Cc8qo0 B6hc00 Cc8qo0 B6uao0 Cc8qo0 B6hc00 Cb5uo0 B8a5c0 Cafxc0 B8a5c0 Cafxc0 B8a5c0 Cafxc0 B8n400 Ca2yo0 B8n400 Ca2yo0 B8n400 Ca2yo0 B8n400 Cafxc0 B8a5c0 Cafxc0 B8a5c0 Cafxc0 B8n400 Ca2yo0 B8n400 Ca2yo0 B8n400 Cafxc0 B8a5c0 Cafxc0 B8a5c0 Cafxc0 B8n400 Ca2yo0 B8n400 Ca2yo0 B8n400 Ca2yo0 B8n400 Ca2yo0
Antarctica/Palmer|-00/0 -03/-10800 -04/-14400 -02/-7200|<-03>3|B-2lxhc0 C31ho0 Bbqas0 C71mk0 Bbqas0 C8ovw0 B9d440 C9px80 B9d440 C9cyk0 B9d440 D28t6k0 B51ek0 C46b6s0 B8c2s0 C7x3w0 Basys0 C7x3w0 Bb5xg0 C7k580 Bb5xg0 C7k580 Bb5xg0 C9cyk0 B9d440 C7x3w0 Basys0 C7x3w0 Bb5xg0 C7k580 B9q2s0 C8zzw0 Bb5xg0 C7x3w0 Basys0 C7x3w0 Basys0 C7x3w0 Basys0 C7x3w0 Bb5xg0 C7k580 Bb5xg0 C8n180 Ba31g0 C7x3w0 Ba31g0 C9px80 B9q2s0 C7x3w0 Bb5xg0 C7k580 Bb5xg0 C7k580 Bb5xg0 C7k580 Bb5xg0 C7x3w0 Basys0 C7x3w0 Basys0 C7x3w0 Bb5xg0 C7k580 Bb5xg0 C8n180 Ba31g0 C7x3w0 Basys0 C8zzw0 B9q2s0 Cast80 B5eis0 Ccyl80 B6hes0 Cc8nw0 B6udg0 Cbvp80 B6udg0 Cvonw0 B4olg0
Antarctica/Rothera|-00/0 -03/-10800|<-03>3|B3lxs00
Antarctica/South_Pole NZ Pacific/Auckland|LMT/41944 NZMT/41400 NZST/45000 NZST/43200 NZDT/46800|NZST-12NZDT,M9.5.0,M4.1.0/3|B-1gsoz14 Cusn9z4 B64ak0 Dbiw40 B7x5a0 Dasxe0 B7x5a0 Dasxe0 B7x5a0 Dasxe0 B8a3y0 Dafyq0 B8a3y0 Dafyq0 Bafvy0 D7x820 Basum0 D7x820 Basum0 D7x820 Basum0 D7x820 Basum0 D7x820 Bb5ta0 D7k9e0 Bb5ta0 D7x820 Ehsl2m0 D5reo0 Eclpc0 D6uao0 Ec8qo0 D6hc00 Ec8qo0 D6hc00 Ec8qo0 D6hc00 Ec8qo0 D6hc00 Ec8qo0 D6hc00 Ec8qo0 D6uao0 Ec8qo0 D6hc00 Ec8qo0 D6hc00 Ec8qo0 D6hc00 Ec8qo0 D6hc00 Ec8qo0 D6hc00 Ec8qo0 D6uao0 Ec8qo0 D6hc00 Eb5uo0 D8a5c0 Eafxc0 D8a5c0 Eafxc0 D8a5c0 Eafxc0 D8n400 Ea2yo0 D8n400 Ea2yo0 D8n400 Ea2yo0 D8n400 Eafxc0 D8a5c0 Eafxc0 D8a5c0 Eafxc0 D8n400 Ea2yo0 D8n400 Ea2yo0 D8n400 Eafxc0 D8a5c0 Eafxc0 D8a5c0 Eafxc0 D8n400 Ea2yo0 D8n400 Ea2yo0 D8n400 Ea2yo0 D8n400 Ea2yo0
Antarctica/Syowa|-00/0 +03/10800|<+03>-3|B-6qsqo0
Antarctica/Troll|-00/0 +00/0|<+00>0<+02>-2,M3.5.0/1,M10.5.0/3|Bibruo0
Antarctica/Vostok|-00/0 +07/25200 +05/18000|<+05>-5|B-6aaao0 Aiushw0 Be23g0 Cf79gs0
Arctic/Longyearbyen Atlantic/Jan_Mayen Europe/Oslo|LMT/2580 CET/3600 CEST/7200|CET-1CEST,M3.5.0,M10.5.0/3|B-1353tzo Cb5svbo B6qfs0 Ccgcqo0 B15tsc0 C7k800 B9q000 C9d1c0 B9d1c0 C9d1c0 B9d1c0 C70q5c0 B9q000 C9d1c0 B9d1c0 C9d1c0 B9d1c0 C9d1c0 B9d1c0 C9d1c0 B9d1c0 C9d1c0 B9q000 Cb5uo0 B7k800 C7law00 B902o0 C9d1c0 B9d1c0 C9d1c0 B9d1c0 C9d1c0 B9d1c0 C9d1c0 B9q000 C9d1c0 B9d1c0 C9d1c0 B9d1c0 C9d1c0 B9d1c0 C9d1c0 B9d1c0 C9d1c0 B9d1c0 C9d1c0 B9q000 C9d1c0 B9d1c0 C9d1c0 B9d1c0 C9d1c0 B9d1c0 C9d1c0 B9d1c0 C9d1c0 B9d1c0 C9q000
Asia/Aden|LMT/10794 +03/10800|<+03>-3|B-afs0bu
Asia/Almaty|LMT/18468 +05/18000 +06/21600 +07/25200|<+05>-5|B-nu1a90 C37a0d0 Dqi27w0 C9et80 D9d440 C9et80 D9d440 C9et80 D9eys0 C9d6w0 D9d1c0 C9d1c0 D9d1c0 C9d1c0 D9d1c0 C9d1c0 D9d1c0 C9d1c0 D9d1c0 C9d1c0 D9d1c0 C9q000 Biq5g0 C5reo0 D3ljw0 C9d1c0 D9d1c0 C9d1c0 D9d1c0 C9d1c0 D9d1c0 C9d1c0 D9q000 Casw00 D7x6o0 Casw00 D7x6o0 Casw00 D7x6o0 Cb5uo0 D7k800 Cb5uo0 D7k800 Cb5uo0 D7x6o0 Casw00 D7x6o0 Casw00 D7x6o0 Cb5uo0 Ba37rs0
Asia/Amman|LMT/8624 EET/7200 EEST/10800 +03/10800|<+03>-3|B-kcrtbk Cm566fk B60l80 Cawo40 B7v980 Cawo40 B7v980 Cayis0 B9gnw0 C9b9g0 B7v980 Cautg0 B7v980 C3e6840 B9et80 C9io40 B9cyk0 C9d440 B9cyk0 C9d440 B9px80 Cayis0 B7rjw0 Cag040 B8a2k0 C9zc40 B8drw0 Ca31g0 B8zzw0 C9d440 B9cyk0 C9d440 B8n180 Cag040 B8a5c0 Cafxc0 B8n400 Ca2yo0 B8n400 Ca2yo0 B8n400 Cepmo0 B4deo0 C9o5c0 B9ew00 C9b6o0 B9ew00 C9d1c0 B9d1c0 C9d1c0 Basw00 C7x6o0 Bafxc0 C8n400 B9d1c0 C9d1c0 Basw00 C7x6o0 Basw00 C7x6o0 Bb5uo0 C7k800 Bb5uo0 C7k800 Bb5uo0 C7x6o0 Basw00 C7x6o0 Bwel80 C51k40 Bb5uo0 C7k800 Bb5uo0 C7x6o0 Basw00 C7x6o0 Basw00 C7x6o0 Basw00 C7x6o0 Basw00 C7x6o0 Bb5uo0 C7k800 Bb5uo0 C64dc0 Dclpc0
Asia/Anadyr|LMT/42596 +12/43200 +13/46800 +14/50400 +11/39600|<+12>-12|B-nu1sv8 C379zj8 Dqi27w0 C9et80 Bis040 C9d440 B9et80 C9eys0 B9d6w0 C9d1c0 B9d1c0 C9d1c0 B9d1c0 C9d1c0 B9d1c0 C9d1c0 B9d1c0 C9d1c0 B9d1c0 C9d1c0 B9q000 Eiq5g0 B5reo0 C3ljw0 B9d1c0 C9d1c0 B9d1c0 C9d1c0 B9d1c0 C9d1c0 B9d1c0 C9q000 Basw00 C7x6o0 Basw00 C7x6o0 Basw00 C7x6o0 Bb5uo0 C7k800 Bb5uo0 C7k800 Bb5uo0 C7x6o0 Basw00 C7x6o0 Basw00 C7x6o0 Bb5uo0 C7k800 Bb5uo0 C7k800 Bb5uo0 C7k800 Bb5uo0 C7x6o0 Basw00 C7x6o0 Basw00 Ej3440 B7k800
Asia/Aqtau|LMT/12064 +04/14400 +05/18000 +06/21600|<+05>-5|B-nu15b4 C379y74 Dqrh3w0 Ciruk0 D9d440 C9et80 D9eys0 C9d6w0 D9d1c0 C9d1c0 D9d1c0 C9d1c0 D9d1c0 C9d1c0 D9d1c0 C9d1c0 D9d1c0 C9d1c0 D9d1c0 C9q000 Biq5g0 C5reo0 D3ljw0 C9d1c0 D9d1c0 C9d1c0 D9d1c0 B9d1c0 C9d440 B9d1c0 C9q000 Basw00 C7x6o0 Basw00 C7x6o0 Basw00 C7x6o0 Bb5uo0 C7k800 Bb5uo0 C7k800 Bb5uo0 C7x6o0 Basw00 C7x6o0 Basw00 C7x6o0
Asia/Aqtobe|LMT/13720 +04/14400 +05/18000 +06/21600|<+05>-5|B-nu16l4 C379zh4 Dqi27w0 Cs6qk0 D9d440 C9et80 D9eys0 C9d6w0 D9d1c0 C9d1c0 D9d1c0 C9d1c0 D9d1c0 C9d1c0 D9d1c0 C9d1c0 D9d1c0 C9d1c0 D9d1c0 C9q000 Biq5g0 C5reo0 D3ljw0 C9d1c0 D9d1c0 C9d1c0 D9d1c0 C9d1c0 D9d1c0 C9d1c0 D9q000 Casw00 D7x6o0 Casw00 D7x6o0 Casw00 D7x6o0 Cb5uo0 D7k800 Cb5uo0 D7k800 Cb5uo0 D7x6o0 Casw00 D7x6o0 Casw00 D7x6o0 Cb5uo0
Asia/Ashgabat Asia/Ashkhabad|LMT/14012 +04/14400 +05/18000 +06/21600|<+05>-5|B-nu16t8 C379zp8 Dqi27w0 C9et80 D9d440 C9et80 D9d440 C9et80 D9eys0 C9d6w0 D9d1c0 C9d1c0 D9d1c0 C9d1c0 D9d1c0 C9d1c0 D9d1c0 C9d1c0 D9d1c0 C9d1c0 D9d1c0 C9q000 Biq5g0 C5reo0
Asia/Atyrau|LMT/12464 +03/10800 +05/18000 +06/21600 +04/14400|<+05>-5|B-nu15m8 C37a1a8 Dqrh140 Ciruk0 D9d440 C9et80 D9eys0 C9d6w0 D9d1c0 C9d1c0 D9d1c0 C9d1c0 D9d1c0 C9d1c0 D9d1c0 C9d1c0 D9d1c0 C9d1c0 D9d1c0 C9q000 Eiq5g0 C5reo0 D3ljw0 C9d1c0 D9d1c0 C9d1c0 D9d1c0 C9d1c0 D9d1c0 C9d1c0 D9q000 Casw00 D7x6o0 Casw00 D7x6o0 Casw00 Ej3440 C7k800 Eb5uo0 C7k800 Eb5uo0 C7x6o0 Easw00 C7x6o0 Easw00 C7x6o0
Asia/Baghdad|LMT/10660 BMT/10656 +03/10800 +04/14400|<+03>-3|B-15r1hk4 Cem11c4 Dxkn3w0 C7v980 D9b9g0 C9gnw0 D9eys0 C9et80 D9d440 C9b9g0 D9d1c0 C9d1c0 D9d1c0 C9d1c0 D9d1c0 C9d1c0 D9d1c0 C9d1c0 D9d1c0 C9q000 D9f1k0 C9ew00 D9ew00 C9ew00 D9d1c0 C9ew00 D9d1c0 C9ew00 D9d1c0 C9ew00 D9ew00 C9ew00 D9d1c0 C9ew00 D9d1c0 C9ew00 D9d1c0 C9ew00 D9ew00 C9ew00 D9d1c0 C9ew00 D9d1c0 C9ew00 D9d1c0 C9ew00 D9ew00 C9ew00 D9d1c0 C9ew00 D9d1c0 C9ew00 D9d1c0 C9ew00
Asia/Bahrain|LMT/12140 +0330/12600 +04/14400 +03/10800|<+03>-3|B-eukpd8 C1a1eb8 Detwby0
Asia/Baku|LMT/11964 +03/10800 +04/14400 +05/18000|<+04>-4|B-nu158c Ch4tkwc Dckinw0 C9et80 D9d440 C9et80 D9d440 C9et80 D9eys0 C9d6w0 D9d1c0 C9d1c0 D9d1c0 C9d1c0 D9d1c0 C9d1c0 D9d1c0 C9d1c0 D9d1c0 C9d1c0 D9d1c0 C9q000 Biq5g0 C9d1c0 D239ew0 Casw00 D7x3w0 Casw00 D7x6o0 Casw00 D7x6o0 Cb5uo0 D7k800 Cb5uo0 D7k800 Cb5uo0 D7x6o0 Casw00 D7x6o0 Casw00 D7x6o0 Cb5uo0 D7k800 Cb5uo0 D7k800 Cb5uo0 D7k800 Cb5uo0 D7x6o0 Casw00 D7x6o0 Casw00 D7x6o0 Cb5uo0 D7k800 Cb5uo0 D7k800 Cb5uo0 D7x6o0 Casw00 D7x6o0 Casw00 D7x6o0 Casw00
Asia/Bangkok|LMT/24124 BMT/24124 +07/25200|<+07>-7|B-1ayyla4 Cl06800
Asia/Barnaul|LMT/20100 +06/21600 +07/25200 +08/28800|<+07>-7|B-q4ljic C5hu6uc Dqi27w0 C9et80 D9d440 C9et80 D9d440 C9et80 D9eys0 C9d6w0 D9d1c0 C9d1c0 D9d1c0 C9d1c0 D9d1c0 C9d1c0 D9d1c0 C9d1c0 D9d1c0 C9d1c0 D9d1c0 C9q000 Biq5g0 C5reo0 D3ljw0 C9d1c0 D9d1c0 C9d1c0 D9d1c0 C9d1c0 D9d1c0 C38fo0 B64og0 C9q000 Basw00 C7x6o0 Basw00 C7x6o0 Basw00 C7x6o0 Bb5uo0 C7k800 Bb5uo0 C7k800 Bb5uo0 C7x6o0 Basw00 C7x6o0 Basw00 C7x6o0 Bb5uo0 C7k800 Bb5uo0 C7k800 Bb5uo0 C7k800 Bb5uo0 C7x6o0 Basw00 C7x6o0 Basw00 C7x6o0 Bb5uo0 C7k800 B1vbzw0 Cqnc40
Asia/Beirut|LMT/8520 EET/7200 EEST/10800|EET-2EEST,M3.5.0/0,M10.5.0/0|B-1ayy98o Ckzyuco Baunw0 C88dg0 B9et80 C8yas0 Ba2vw0 Ca31g0 B7k580 Chjqo40 B7v980 Cawo40 B7v980 Cawo40 B7v980 Cayis0 B7v980 Cawo40 B7v980 C5lhs40 B56yk0 Cawo40 B7v980 Cawo40 B7v980 Cawo40 B7v980 Cayis0 B7v980 Cawo40 B7v980 Cautg0 B7v980 C2wxus0 B8n180 Ca4w40 B8n180 Ca4w40 B8n180 Ca4w40 B8n180 Cbs5g0 B71mk0 Calk40 B86d80 Ca4w40 B8n180 Ca4w40 B8n180 Ca6qs0 B80t80 C905g0 B9cyk0 C9d440 B9cyk0 C9d440 B9cyk0 C9q2s0 B9cyk0 C9d440 B9cyk0 C9d440 B9cyk0 C9d440
Asia/Bishkek|LMT/17904 +05/18000 +06/21600 +07/25200|<+06>-6|B-nu19tc C379zxc Dqi27w0 C9et80 D9d440 C9et80 D9d440 C9et80 D9eys0 C9d6w0 D9d1c0 C9d1c0 D9d1c0 C9d1c0 D9d1c0 C9d1c0 D9d1c0 C9d1c0 D9d1c0 C9d1c0 D9d1c0 C9q000 Bh8dc0 Cbkl80 B8n180 Ca31g0 B8n180 Ca31g0 B8n180 Ca31g0 B8n180 Ca31g0 B8zzw0 C9db20 Bast80 C7x9g0 Bast80 C7x9g0 Bb5rw0 C7kas0 Bb5rw0 C7kas0 Bb5rw0 C7x9g0 Bast80 C7x9g0 Bast80 C7x9g0 Bb5rw0 C7kas0
Asia/Brunei|LMT/27580 +0730/27000 +08/28800|<+08>-8|B-mvofy4 C3khxs4
Asia/Calcutta Asia/Kolkata|LMT/21208 HMT/21200 MMT/19270 IST/19800 +0630/23400|IST-5:30|B-1oaa314 C83glc8 Disc6tm Einnm9a Dbmfw0 E5lxg0 D1mn180
Asia/Chita|LMT/27232 +08/28800 +09/32400 +10/36000|<+09>-9|B-q4cfog C5hkxgg Dqi27w0 C9et80 D9d440 C9et80 D9d440 C9et80 D9eys0 C9d6w0 D9d1c0 C9d1c0 D9d1c0 C9d1c0 D9d1c0 C9d1c0 D9d1c0 C9d1c0 D9d1c0 C9d1c0 D9d1c0 C9q000 Biq5g0 C5reo0 D3ljw0 C9d1c0 D9d1c0 C9d1c0 D9d1c0 C9d1c0 D9d1c0 C9d1c0 D9q000 Casw00 D7x6o0 Casw00 D7x6o0 Casw00 D7x6o0 Cb5uo0 D7k800 Cb5uo0 D7k800 Cb5uo0 D7x6o0 Casw00 D7x6o0 Casw00 D7x6o0 Cb5uo0 D7k800 Cb5uo0 D7k800 Cb5uo0 D7k800 Cb5uo0 D7x6o0 Casw00 D7x6o0 Casw00 D7x6o0 Cb5uo0 D7k800 B1vbzw0 Cqnew0
Asia/Choibalsan Asia/Ulaanbaatar Asia/Ulan_Bator|LMT/25652 +07/25200 +08/28800 +09/32400|<+08>-8|B-xmcrsk C11sncck D2qk2k0 C9et80 D9eys0 C9cyk0 D9d440 C9cyk0 D9d440 C9cyk0 D9d440 C9cyk0 D9d440 C9cyk0 D9d440 C9cyk0 D9d440 C9px80 D9d440 C9cyk0 D9d440 C9cyk0 D9d440 C9cyk0 D9d440 C9cyk0 D9d440 C9cyk0 D9q2s0 C9cyk0 D9d440 C9cyk0 D9d440 C9cyk0 D1ckdo0 C7x3w0 D9d440 C9cyk0 D9d440 C9cyk0 D9d440 C9cyk0 D9d440 C9cyk0 D9d440 C9px80 D4fio40 C9ct00 D9d9o0 C9ct00
Asia/Chongqing Asia/Chungking Asia/Harbin Asia/Shanghai PRC|LMT/29143 CST/28800 CDT/32400|CST-8|B-100eztj C9jeyxj B8sl80 Casbpg0 B6w2k0 C7ves0 Bbxjw0 C4mqs0 B1vduk0 Cd4as0 B75bw0 Ca31g0 Baaak0 C9d440 B7v980 Cawo40 B1dx80 Cj9xpo0 B6u7w0 Casys0 B7x3w0 Cb5xg0 B7k580 Cb5xg0 B7x3w0 Casys0 B7x3w0 Casys0 B7x3w0
Asia/Colombo|LMT/19164 MMT/19172 +0530/19800 +06/21600 +0630/23400|<+0530>-5:30|B-1ayyhgc Cdkh6ns Disle6k Ecajy0 C1mp2u0 Eqetjw0 D7x5a0 C4xvqq0
Asia/Dacca Asia/Dhaka|LMT/21700 HMT/21200 +0630/23400 +0530/19800 +06/21600 +07/25200|<+06>-6|B-15r1q2s Cr080dw Dbmgyw C5lxg0 E4qknw0 Fu4ijy0 Ea1400
Asia/Damascus|LMT/8712 EET/7200 EEST/10800 +03/10800|<+03>-3|B-q3gk20 C5k6q0 B8n180 Ca31g0 B8n180 Ca31g0 B8n180 Ca31g0 B8zzw0 Ck4hk40 B7yyk0 Cawo40 B7tek0 Cb0dg0 B7v980 Cawo40 B7tek0 Calk40 B887w0 Cawo40 B7v980 Cayis0 B7v980 Cawo40 B7v980 Cawo40 B7v980 Cawo40 B7v980 Cayis0 B7v980 Cawo40 B7v980 Cawo40 B7v980 Cawo40 B7v980 Cayis0 B7v980 Cawo40 B6bp80 Ccg840 B6bp80 C2eh1g0 B8zzw0 C9ts40 B8zzw0 Cpvk40 Bc33w0 C7cw40 Bcjrw0 C6zxg0 Bbtuk0 C7rpg0 B9gnw0 C9d440 B9cyk0 C9et80 B9et80 C9rxg0 B91uk0 C92040 B9et80 C9o840 B9et80 C9d440 B9et80 C9eys0 B9et80 C9b9g0 B9gnw0 C99es0 B9iik0 C9d440 B9et80 C9eys0 B9et80 C9d440 B9et80 C9d440 B9et80 C9d440 B9et80 C9eys0 B9et80 C9d440 B9et80 C9d440 B8y580 C9q2s0 Bb5rw0 C7x9g0 Baunw0 C7ig40 Bb5rw0 C7x9g0 Bast80 C7x9g0 Bast80 C7x9g0 Bast80 C7x9g0 Bast80 C7x9g0 Bb5rw0 C7kas0 Bb5rw0 C7kas0 Bb5rw0 C7x9g0 Bast80 C7x9g0 Bast80 C7x9g0 Bast80 C7x9g0 Bb5rw0 C7kas0 Bb5rw0 C7kas0 Db5rw0
Asia/Dili|LMT/30140 +08/28800 +09/32400|<+09>-9|B-u9s3k0 Cfqct80 Bhufs00 Ccpz440
Asia/Dubai|LMT/13272 +04/14400|<+04>-4|B-q3gnko
Asia/Dushanbe|LMT/16512 +05/18000 +06/21600 +07/25200|<+05>-5|B-nu18qo C379yuo Dqi27w0 C9et80 D9d440 C9et80 D9d440 C9et80 D9eys0 C9d6w0 D9d1c0 C9d1c0 D9d1c0 C9d1c0 D9d1c0 C9d1c0 D9d1c0 C9d1c0 D9d1c0 C9d1c0 D9d1c0 C9q000 Bhp440
Asia/Famagusta|LMT/8148 EET/7200 EEST/10800 +03/10800|EET-2EEST,M3.5.0/3,M10.5.0/4|B-p4bqac Crvhy2c B9cyk0 Cb42s0 B7nuk0 C8yas0 B8zzw0 C9q2s0 B9et80 C9b9g0 B9cyk0 C9q2s0 B8zzw0 C9d440 B9cyk0 C9d440 B9cyk0 C9d440 B9cyk0 C9d440 B9px80 C9d440 B9cyk0 C9d440 B9cyk0 C9d440 B9cyk0 C9d440 B9cyk0 C9d440 B9cyk0 C9d440 B9px80 C9d440 B9cyk0 C9d440 B9cyk0 C9d440 B9cyk0 C9d440 B9cyk0 C9d440 B9cyk0 C9q2s0 B9cyk0 C9d440 B9cyk0 C9d440 Bat4c0 C7x6o0 Bb5uo0 C7k800 Bb5uo0 C7k800 Bb5uo0 C7x6o0 Basw00 C7x6o0 Basw00 C7x6o0 Bb5uo0 C7k800 Bb5uo0 C7k800 Bb5uo0 C7k800 Bb5uo0 C7x6o0 Basw00 C7x6o0 Basw00 C7x6o0 Bb5uo0 C7k800 Bb5uo0 C7k800 Bb5uo0 C7x6o0 Basw00 C7x6o0 Basw00 C7x6o0 Basw00 C7x6o0 D8h8w0 Bleog0
Asia/Gaza|LMT/8272 EET/7200 EEST/10800 IST/7200 IDT/10800|EET-2EEST,M3.4.4/50,M10.4.4/50|B-1054x1s Ckp9t1s B69xc0 C2f1c0 B10q800 C7rmo0 Bb0ao0 C7thc0 Bb0ao0 C8jeo0 Ba8io0 C8jeo0 Ba8io0 C5hoig0 B7el80 Cawo40 B7v980 Cawqw0 B7tk40 Cb07w0 B7tk40 Cayd80 B7tk40 Cayd80 B7tk40 Cayd80 B7tk40 Cb07w0 B7tk40 Cayd80 B7tk40 Cayd80 B7ves0 Cawik0 D1sns0 E3p6is0 D51ek0 E9q2s0 D6u7w0 E2kjk40 D25s00 E1weyo0 D5reo0 Ebvs00 D776k0 Edbpg0 D5rbw0 Ebbhg0 D7rjw0 Easys0 D7k580 Ec8tg0 D6h980 Eag040 D7x3w0 Easys0 D8a2k0 Easys0 D8a2k0 Eap9g0 D80t80 Eap9g0 D7nuk0 Eb2840 D80t80 B66as0 C4vxc0 B8n400 Ca2yo0 B8n400 Ca2yo0 B8n400 Casw00 B9cyk0 C9q2s0 B9cyk0 C9d440 B9cyk0 C9d440 B9cyk0 C9d440 B9cyk0 C9d440 B8n400 Ca2yo0 B8ulg0 C97ek0 B8y580 C9ts40 B8hms0 Ca4qk0 B7x3w0 Casys0 B8a5c0 Cahs1o B71mic Cbzk5o B69uic Ccg840 B902o0 C9q000 B9cyk0 C9d440 Bast80 C7z440 Bar1c0 C7z440 Bb5rw0 C7kas0 Bb5rw0 C7kas0 Bb5rw0 C7vc00 Baunw0 C7x9g0 Basw00 C7x6o0 Bb4000 C7nxc0 Bb42s0 C9d440 B9cyk0 C905g0 B9px80 C8n6s0 Ba2vw0 C7x9g0 Bast80 C7x9g0 Bb5rw0 C7kas0 Bb5rw0 C7kas0 Bb5rw0 C7x9g0 Bast80 C7x9g0 Bast80 C7x9g0 Bb5rw0 C7kas0 Bb5rw0 C7kas0 Bb5rw0 C7kas0 Bb5rw0 C7x9g0 Bafuk0 C8a840 Ba2vw0 C8n6s0 B9cyk0 C9d440 B8zzw0 C9q2s0 B8a2k0 C2itg0 Bcvw0 C7x9g0 B7k580 C25us0 B12t80 C7x9g0 B776k0 C25us0 B1frw0 C7x9g0 B6h980 C2itg0 B1sqk0 C7x9g0 B64ak0 C25us0 B2vmk0 C7kas0 B5rbw0 C25us0 B38l80 C7kas0 B51ek0 C2itg0 B3ljw0 C7x9g0 B4bh80 C25us0 B4bh80 C7x9g0 B3ljw0 C2itg0 B4ofw0 C7x9g0 B38l80 C25us0 B5rbw0 C7kas0 B2vmk0 C25us0 B64ak0 C7kas0 B25p80 C2itg0 B6h980 C7x9g0 B1frw0 C25us0 B776k0 C7x9g0 Bpuk0 C2itg0 B7k580 C7x9g0 Bcvw0 C2itg0 B7x3w0 Ca31g0 B8zzw0 C9d440 B9cyk0 C8n6s0 Ba2vw0 C8a840 Bafuk0 C7x9g0 Bast80 C7x9g0 Bb5rw0 C7kas0 Bb5rw0 C7kas0 Bb5rw0 C7kas0 Bb5rw0 C7x9g0 Bast80 C7x9g0 Bast80 C7x9g0 Bb5rw0 C7kas0 Bb5rw0 C7kas0 Bast80 C8a840 Ba2vw0 C8n6s0 B9px80 C905g0 B8zzw0 C9q2s0 B8n180 C25us0 Bcvw0 C7kas0 B8a2k0 C25us0 Bpuk0 C7kas0 B7k580 C2itg0 B12t80 C7x9g0 B6u7w0 C25us0 B1sqk0 C7x9g0 B64ak0 C2itg0 B25p80 C7x9g0 B5rbw0 C2itg0 B2vmk0 C7kas0 B5ed80 C25us0 B3ljw0 C7kas0 B4ofw0 C2itg0 B3yik0 C7x9g0 B3yik0 C25us0 B4ofw0 C7x9g0 B3ljw0 C25us0 B51ek0 C7x9g0 B2vmk0 C2itg0 B5ed80 C7x9g0 B2inw0 C25us0 B6h980 C7kas0 B1sqk0 C2itg0 B6u7w0 C7kas0 B1frw0 C2itg0 B776k0 C7x9g0 Bpuk0 C25us0
Asia/Hebron|LMT/8423 EET/7200 EEST/10800 IST/7200 IDT/10800|EET-2EEST,M3.4.4/50,M10.4.4/50|B-1054x5z Ckp9t5z B69xc0 C2f1c0 B10q800 C7rmo0 Bb0ao0 C7thc0 Bb0ao0 C8jeo0 Ba8io0 C8jeo0 Ba8io0 C5hoig0 B7el80 Cawo40 B7v980 Cawqw0 B7tk40 Cb07w0 B7tk40 Cayd80 B7tk40 Cayd80 B7tk40 Cayd80 B7tk40 Cb07w0 B7tk40 Cayd80 B7tk40 Cayd80 B7ves0 Cawik0 D1sns0 E3p6is0 D51ek0 E9q2s0 D6u7w0 E2kjk40 D25s00 E1weyo0 D5reo0 Ebvs00 D776k0 Edbpg0 D5rbw0 Ebbhg0 D7rjw0 Easys0 D7k580 Ec8tg0 D6h980 Eag040 D7x3w0 Easys0 D8a2k0 Easys0 D8a2k0 Eap9g0 D80t80 Eap9g0 D7nuk0 Eb2840 D80t80 B66as0 C4vxc0 B8n400 Ca2yo0 B8n400 Ca2yo0 B8n400 Casw00 B9cyk0 C9q2s0 B9cyk0 C9d440 B9cyk0 C9d440 B9cyk0 C9d440 B9cyk0 C9d440 B8n400 Ca2yo0 B8ulg0 C97ek0 B8y580 C9ts40 B8hms0 Ca4qk0 B82nw0 Canes0 B8a5c0 Cafxc0 B73h80 Cbzk5o B69uic C1hs40 B1lbw0 C9d440 B902o0 C9q000 B9cyk0 C9d440 Bast80 C7z440 Bar1c0 C7z440 Bb5rw0 C7kas0 Bb5rw0 C7kas0 Bb5rw0 C7vc00 Baunw0 C7x9g0 Basw00 C7x6o0 Bb4000 C7nxc0 Bb42s0 C9d440 B9cyk0 C905g0 B9px80 C8n6s0 Ba2vw0 C7x9g0 Bast80 C7x9g0 Bb5rw0 C7kas0 Bb5rw0 C7kas0 Bb5rw0 C7x9g0 Bast80 C7x9g0 Bast80 C7x9g0 Bb5rw0 C7kas0 Bb5rw0 C7kas0 Bb5rw0 C7kas0 Bb5rw0 C7x9g0 Bafuk0 C8a840 Ba2vw0 C8n6s0 B9cyk0 C9d440 B8zzw0 C9q2s0 B8a2k0 C2itg0 Bcvw0 C7x9g0 B7k580 C25us0 B12t80 C7x9g0 B776k0 C25us0 B1frw0 C7x9g0 B6h980 C2itg0 B1sqk0 C7x9g0 B64ak0 C25us0 B2vmk0 C7kas0 B5rbw0 C25us0 B38l80 C7kas0 B51ek0 C2itg0 B3ljw0 C7x9g0 B4bh80 C25us0 B4bh80 C7x9g0 B3ljw0 C2itg0 B4ofw0 C7x9g0 B38l80 C25us0 B5rbw0 C7kas0 B2vmk0 C25us0 B64ak0 C7kas0 B25p80 C2itg0 B6h980 C7x9g0 B1frw0 C25us0 B776k0 C7x9g0 Bpuk0 C2itg0 B7k580 C7x9g0 Bcvw0 C2itg0 B7x3w0 Ca31g0 B8zzw0 C9d440 B9cyk0 C8n6s0 Ba2vw0 C8a840 Bafuk0 C7x9g0 Bast80 C7x9g0 Bb5rw0 C7kas0 Bb5rw0 C7kas0 Bb5rw0 C7kas0 Bb5rw0 C7x9g0 Bast80 C7x9g0 Bast80 C7x9g0 Bb5rw0 C7kas0 Bb5rw0 C7kas0 Bast80 C8a840 Ba2vw0 C8n6s0 B9px80 C905g0 B8zzw0 C9q2s0 B8n180 C25us0 Bcvw0 C7kas0 B8a2k0 C25us0 Bpuk0 C7kas0 B7k580 C2itg0 B12t80 C7x9g0 B6u7w0 C25us0 B1sqk0 C7x9g0 B64ak0 C2itg0 B25p80 C7x9g0 B5rbw0 C2itg0 B2vmk0 C7kas0 B5ed80 C25us0 B3ljw0 C7kas0 B4ofw0 C2itg0 B3yik0 C7x9g0 B3yik0 C25us0 B4ofw0 C7x9g0 B3ljw0 C25us0 B51ek0 C7x9g0 B2vmk0 C2itg0 B5ed80 C7x9g0 B2inw0 C25us0 B6h980 C7kas0 B1sqk0 C2itg0 B6u7w0 C7kas0 B1frw0 C2itg0 B776k0 C7x9g0 Bpuk0 C25us0
Asia/Ho_Chi_Minh Asia/Saigon|LMT/25590 PLMT/25590 +07/25200 +08/28800 +09/32400|<+07>-7|B-x5692u C2isio0 Dgj25iu E15ct80 C8so00 Dtmtk0 C4azmo0 D2cm7w0 C8285c0
Asia/Hong_Kong Hongkong|LMT/27402 HKT/28800 HKST/32400 HKWT/30600 JST/32400|HKT-8|B-y0i0s0 Cj44dk0 D5k000 E4d4y0 B2195i0 C7x3w0 Bbj320 C6uao0 Bbvs00 C7x6o0 B9d1c0 C7x6o0 Basw00 C7x6o0 Basw00 C7x6o0 Basw00 C8a5c0 Basw00 C7x6o0 Bast80 C77c40 Bbiqk0 C77c40 Bbvp80 C6udg0 Bbvp80 C77c40 Bbiqk0 C77c40 Bbiqk0 C77c40 Bbiqk0 C77c40 Bbvp80 C6udg0 Bbvp80 C6udg0 Bbvp80 C77c40 Bbiqk0 C77c40 Bbiqk0 C8n6s0 B9cyk0 C9d440 B9cyk0 C9d440 B9px80 C9d440 B9cyk0 C9d440 B9cyk0 C9d440 B9cyk0 C9d440 B9cyk0 C9d440 B9px80 C9d440 B9cyk0 C3lpg0 Bf4d80 C9d440 B9cyk0 C9d440 B9cyk0 C1c9440 B8a2k0
Asia/Hovd|LMT/21996 +06/21600 +07/25200 +08/28800|<+07>-7|B-xmcoz0 C11sncb0 D2qk2k0 C9et80 D9eys0 C9cyk0 D9d440 C9cyk0 D9d440 C9cyk0 D9d440 C9cyk0 D9d440 C9cyk0 D9d440 C9cyk0 D9d440 C9px80 D9d440 C9cyk0 D9d440 C9cyk0 D9d440 C9cyk0 D9d440 C9cyk0 D9d440 C9cyk0 D9q2s0 C9cyk0 D9d440 C9cyk0 D9d440 C9cyk0 D1ckdo0 C7x3w0 D9d440 C9cyk0 D9d440 C9cyk0 D9d440 C9cyk0 D9d440 C9cyk0 D9d440 C9px80 D4fio40 C9ct00 D9d9o0 C9ct00
Asia/Irkutsk|LMT/25025 IMT/25025 +07/25200 +08/28800 +09/32400|<+08>-8|B-1ayylz5 Ckwq5c0 D5fh175 Eqi27w0 D9et80 E9d440 D9et80 E9d440 D9et80 E9eys0 D9d6w0 E9d1c0 D9d1c0 E9d1c0 D9d1c0 E9d1c0 D9d1c0 E9d1c0 D9d1c0 E9d1c0 D9d1c0 E9d1c0 D9q000 Ciq5g0 D5reo0 E3ljw0 D9d1c0 E9d1c0 D9d1c0 E9d1c0 D9d1c0 E9d1c0 D9d1c0 E9q000 Dasw00 E7x6o0 Dasw00 E7x6o0 Dasw00 E7x6o0 Db5uo0 E7k800 Db5uo0 E7k800 Db5uo0 E7x6o0 Dasw00 E7x6o0 Dasw00 E7x6o0 Db5uo0 E7k800 Db5uo0 E7k800 Db5uo0 E7k800 Db5uo0 E7x6o0 Dasw00 E7x6o0 Dasw00 E7x6o0 Db5uo0 E7k800 D1vbzw0
Asia/Istanbul Europe/Istanbul Turkey|LMT/6952 IMT/7016 EET/7200 EEST/10800 +03/10800 +04/14400|<+03>-3|B-1ayy814 Cg1oam8 D2wvx6w C7v980 D1tjc40 Caunw0 D88dg0 C9et80 D8yas0 Ca2vw0 Dtzpg0 C79180 Dawo40 C7v980 D7p4040 C4zjw0 D2vs40 Cf4d80 D9vms0 C1u5ek0 Dc5440 C69uk0 Dacas0 C8n180 Da31g0 C8n180 D9q2s0 C8zzw0 Da31g0 C8zzw0 Da31g0 C8n180 D5md9g0 Co9zw0 Da6qs0 C75bw0 D4iwyw0 C7x6o0 D7kas0 Cb5rw0 D75hg0 Cbkl80 D77c40 Cbiqk0 D7x9g0 Ca2vw0 D8n6s0 E4iqc0 F2nkw80 E38l80 Ckdes0 D8qtc0 C8a5c0 D9ew00 C9d1c0 D9d1c0 C9d1c0 D9d1c0 C9d1c0 D9d1c0 C9d1c0 D9d1c0 C9q000 D9d1c0 C9d1c0 D9d1c0 C9d1c0 D9d1c0 C9d1c0 D902o0 C9q000 D9d1c0 C9d1c0 D9q000 Casw00 D7x6o0 Casw00 D7x6o0 Casw00 D7x6o0 Cb5uo0 D7k800 Cb5uo0 D7k800 Cb5uo0 D7x6o0 Casw00 D7x6o0 Casw00 D7x6o0 Cb5uo0 D7k800 Cb5uo0 D7k800 Cb5uo0 D7kdk0 Cb5uo0 D7x6o0 Casw00 D7x6o0 Casw00 D7x6o0 Cb5uo0 D7m2o0 Cb4000 D7k800 Cb5uo0 D7x6o0 Casw00 D7z1c0 Car1c0 D7x6o0 Cbitc0 D779c0 E8fe80
Asia/Jakarta|LMT/25632 BMT/25632 +0720/26400 +0730/27000 +09/32400 +08/28800 WIB/25200|WIB-7|B-1hftyg0 Ctfikqo D4lzxc0 E4wdzjc D1tu960 F1cx860 D11jta0 G74uc20
Asia/Jayapura|LMT/33768 +09/32400 +0930/34200 WIT/32400|WIT-9|B-jebm20 C66bqe0 Da37vy0
Asia/Jerusalem Asia/Tel_Aviv Israel|LMT/8454 JMT/8440 IST/7200 IDT/10800 IDDT/14400|IST-2IDT,M3.4.4/26,M10.5.0|B-1ayy96u Cjtxuoe Dbp5aig C69xc0 D2f1c0 C10q800 D7rmo0 Cb0ao0 D7thc0 Cb0ao0 D8jeo0 Ca8io0 D8jeo0 Ca8io0 Et9pc0 D571c0 C34yo0 D9b6o0 C9gqo0 D8jeo0 C7thc0 Da6o00 Cbitc0 D8a5c0 C9d1c0 D902o0 C7x6o0 De1k00 C4oio0 De1k00 C4oio0 Ddolc0 C64dc0 Dasw00 C7k800 D8rfeg0 C51ek0 D9q2s0 C6u7w0 D2kjk40 C25s00 D1weyo0 C5reo0 Dbvs00 C776k0 Ddbpg0 C5rbw0 Dbbhg0 C7rjw0 Dasys0 C7k580 Dc8tg0 C6h980 Dag040 C7x3w0 Dasys0 C8a2k0 Dasys0 C8a2k0 Dap9g0 C80t80 Dap9g0 C7nuk0 Db2840 C80t80 D9zc40 C9iik0 D9kis0 C93p80 D9mdg0 C8qqk0 Dapf00 C7x3w0 Dbiw40 C8zx40 D9io40 C8n180 D9kis0 C9vh80 D8ulg0 C9px80 D9mdg0 C8n180 D9tuw0 C9tmk0 D8wg40 C9gnw0 D99es0 C8qqk0 D9zc40 C9tmk0 D8wg40 C9gnw0 D99es0 C8qqk0 Dacas0 C9gnw0 D99es0 C93p80 D9mdg0
Asia/Kabul|LMT/16608 +04/14400 +0430/16200|<+0430>-4:30|B-15r1m5c Cspc1pc
Asia/Kamchatka|LMT/38076 +11/39600 +12/43200 +13/46800|<+12>-12|B-olrupo C3z045o Dqi27w0 C9et80 D9d440 C9et80 D9d440 C9et80 D9eys0 C9d6w0 D9d1c0 C9d1c0 D9d1c0 C9d1c0 D9d1c0 C9d1c0 D9d1c0 C9d1c0 D9d1c0 C9d1c0 D9d1c0 C9q000 Biq5g0 C5reo0 D3ljw0 C9d1c0 D9d1c0 C9d1c0 D9d1c0 C9d1c0 D9d1c0 C9d1c0 D9q000 Casw00 D7x6o0 Casw00 D7x6o0 Casw00 D7x6o0 Cb5uo0 D7k800 Cb5uo0 D7k800 Cb5uo0 D7x6o0 Casw00 D7x6o0 Casw00 D7x6o0 Cb5uo0 D7k800 Cb5uo0 D7k800 Cb5uo0 D7k800 Cb5uo0 D7x6o0 Casw00 D7x6o0 Casw00 Bj3440 C7k800
Asia/Karachi|LMT/16092 +0530/19800 +0630/23400 +05/18000 PKT/18000 PKST/21600|PKT-5|B-wvpb30 Cim3zt0 B1mn180 D33xpg0 Ea63o20 Fg72qo0 E9cyk0 F2y85g0 E7v980 F8hms0 Eaaak0
Asia/Kashgar Asia/Urumqi|LMT/21020 +06/21600|<+06>-6|B-lx5pjw
Asia/Kathmandu Asia/Katmandu|LMT/20476 +0530/19800 +0545/20700|<+0545>-5:45|B-q3gt4s Cyg2lus
Asia/Khandyga|LMT/32533 +08/28800 +09/32400 +10/36000 +11/39600|<+09>-9|B-q4cjrp C5hl1jp Dqi27w0 C9et80 D9d440 C9et80 D9d440 C9et80 D9eys0 C9d6w0 D9d1c0 C9d1c0 D9d1c0 C9d1c0 D9d1c0 C9d1c0 D9d1c0 C9d1c0 D9d1c0 C9d1c0 D9d1c0 C9q000 Biq5g0 C5reo0 D3ljw0 C9d1c0 D9d1c0 C9d1c0 D9d1c0 C9d1c0 D9d1c0 C9d1c0 D9q000 Casw00 D7x6o0 Casw00 D7x6o0 Casw00 D7x6o0 Cb5uo0 D7k800 Cb5uo0 D7k800 Cb5uo0 D7x6o0 Casw00 D7x6o0 Casw00 D3fx40 E4h6s0 Db5uo0 E7k800 Db5uo0 E7k800 Db5uo0 E7k800 Db5uo0 E7x6o0 Dasw00 E7x6o0 Dasw00 E7x6o0 Db5uo0 E7k800 D8ql00 C1mlho0
Asia/Krasnoyarsk|LMT/22286 +06/21600 +07/25200 +08/28800|<+07>-7|B-q37l72 C5gg8j2 Dqi27w0 C9et80 D9d440 C9et80 D9d440 C9et80 D9eys0 C9d6w0 D9d1c0 C9d1c0 D9d1c0 C9d1c0 D9d1c0 C9d1c0 D9d1c0 C9d1c0 D9d1c0 C9d1c0 D9d1c0 C9q000 Biq5g0 C5reo0 D3ljw0 C9d1c0 D9d1c0 C9d1c0 D9d1c0 C9d1c0 D9d1c0 C9d1c0 D9q000 Casw00 D7x6o0 Casw00 D7x6o0 Casw00 D7x6o0 Cb5uo0 D7k800 Cb5uo0 D7k800 Cb5uo0 D7x6o0 Casw00 D7x6o0 Casw00 D7x6o0 Cb5uo0 D7k800 Cb5uo0 D7k800 Cb5uo0 D7k800 Cb5uo0 D7x6o0 Casw00 D7x6o0 Casw00 D7x6o0 Cb5uo0 D7k800 C1vbzw0
Asia/Kuala_Lumpur|LMT/24406 SMT/24925 +07/25200 +0720/26400 +0730/27000 +09/32400 +08/28800|<+08>-8|B-100ew5y C2ax69l Deeb94d E4it32o F8n3jc E1v2p60 Giy3ms0
Asia/Kuching|LMT/26480 +0730/27000 +08/28800 +0820/30000 +09/32400|<+08>-8|B-mvof3k C3khwxk D1epvy0 C4ohqo De5a9c C4ohqo De3flc C4ohqo De3flc C4ohqo De3flc C4ohqo De5a9c C4ohqo De3flc C4ohqo E3ajlc C1v2qk0
Asia/Kuwait|LMT/11516 +03/10800|<+03>-3|B-afs0vw
Asia/Macao Asia/Macau|LMT/27250 CST/28800 +09/32400 +10/36000 CDT/32400|CST-8|B-y0i2cy Cjdvyoy D6onw0 Cac580 D8fs40 C7v980 B11luw0 Eawlc0 B7vc00 Eac800 Bbko00 E7x6o0 B9d1c0 E7vc00 Basw00 E7x6o0 Basw00 E7x6o0 Bauqo0 E88ao0 Basw00 E7x6o0 Basw00 E779c0 Bbitc0 E779c0 Bbvs00 E6uao0 Bbw1q0 E77c40 Bbiqk0 E77c40 Bbiqk0 E77c40 Bbiqk0 E77c40 Bbvp80 E6udg0 Bbvp80 E6udg0 Bbvp80 E77c40 Bbiqk0 E77c40 Bbiqk0 E8n6s0 B9cvs0 E9d6w0 B9cvs0 E9d6w0 B9px80 E9d440 B9cyk0 E9d440 B9cyk0 E9d440 B9cyk0 E9d440 B9cyk0 E9d440 B9px80 E9d440 B9cyk0 E3lpg0 Bf4d80 E9d440 B9cyk0 E9d440 B9cyk0 E1c9440 B8a2k0
Asia/Magadan|LMT/36192 +10/36000 +11/39600 +12/43200|<+11>-11|B-nu1nxc C37a05c Dqi27w0 C9et80 D9d440 C9et80 D9d440 C9et80 D9eys0 C9d6w0 D9d1c0 C9d1c0 D9d1c0 C9d1c0 D9d1c0 C9d1c0 D9d1c0 C9d1c0 D9d1c0 C9d1c0 D9d1c0 C9q000 Biq5g0 C5reo0 D3ljw0 C9d1c0 D9d1c0 C9d1c0 D9d1c0 C9d1c0 D9d1c0 C9d1c0 D9q000 Casw00 D7x6o0 Casw00 D7x6o0 Casw00 D7x6o0 Cb5uo0 D7k800 Cb5uo0 D7k800 Cb5uo0 D7x6o0 Casw00 D7x6o0 Casw00 D7x6o0 Cb5uo0 D7k800 Cb5uo0 D7k800 Cb5uo0 D7k800 Cb5uo0 D7x6o0 Casw00 D7x6o0 Casw00 D7x6o0 Cb5uo0 D7k800 B1vbzw0 Cs39k0
Asia/Makassar Asia/Ujung_Pandang|LMT/28656 MMT/28656 +08/28800 +09/32400 WITA/28800|WITA-8|B-q3gzg0 C6p5hc0 D4u87w0 E1w02k0
Asia/Manila|LMT/-57368 LMT/29032 PST/28800 PDT/32400 JST/32400|PST-8|B-1t8ix2g Csjc9ig Dje0pc0 C3wnw0 D2kc5g0 E2zbw0 D1leo00 Cdzpc0 D4d3ms0 C2rx80 Dbwlpg0 C95jw0 D6lv1g0 C3jp80
Asia/Muscat|LMT/14064 +04/14400|<+04>-4|B-q3go6o
Asia/Nicosia Europe/Nicosia|LMT/8008 EET/7200 EEST/10800|EET-2EEST,M3.5.0/3,M10.5.0/4|B-p4bq6g Crvhxyg B9cyk0 Cb42s0 B7nuk0 C8yas0 B8zzw0 C9q2s0 B9et80 C9b9g0 B9cyk0 C9q2s0 B8zzw0 C9d440 B9cyk0 C9d440 B9cyk0 C9d440 B9cyk0 C9d440 B9px80 C9d440 B9cyk0 C9d440 B9cyk0 C9d440 B9cyk0 C9d440 B9cyk0 C9d440 B9cyk0 C9d440 B9px80 C9d440 B9cyk0 C9d440 B9cyk0 C9d440 B9cyk0 C9d440 B9cyk0 C9d440 B9cyk0 C9q2s0 B9cyk0 C9d440 B9cyk0 C9d440 Bat4c0
Asia/Novokuznetsk|LMT/20928 +06/21600 +07/25200 +08/28800|<+07>-7|B-nu36tc C37bu5c Dqi27w0 C9et80 D9d440 C9et80 D9d440 C9et80 D9eys0 C9d6w0 D9d1c0 C9d1c0 D9d1c0 C9d1c0 D9d1c0 C9d1c0 D9d1c0 C9d1c0 D9d1c0 C9d1c0 D9d1c0 C9q000 Biq5g0 C5reo0 D3ljw0 C9d1c0 D9d1c0 C9d1c0 D9d1c0 C9d1c0 D9d1c0 C9d1c0 D9q000 Casw00 D7x6o0 Casw00 D7x6o0 Casw00 D7x6o0 Cb5uo0 D7k800 Cb5uo0 D7k800 Cb5uo0 D7x6o0 Casw00 D7x6o0 Casw00 D7x6o0 Cb5uo0 D7k800 Cb5uo0 D7k800 Cb5uo0 D7k800 Cb5uo0 D7x6o0 Casw00 D7x6o0 Casw00 Bj3440 C7k800
Asia/Novosibirsk|LMT/19900 +06/21600 +07/25200 +08/28800|<+07>-7|B-q4do0s C5hmbcs Dqi27w0 C9et80 D9d440 C9et80 D9d440 C9et80 D9eys0 C9d6w0 D9d1c0 C9d1c0 D9d1c0 C9d1c0 D9d1c0 C9d1c0 D9d1c0 C9d1c0 D9d1c0 C9d1c0 D9d1c0 C9q000 Biq5g0 C5reo0 D3ljw0 C9d1c0 D9d1c0 C2vh00 B6hn40 C9d1c0 B9d1c0 C9d1c0 B9d1c0 C9q000 Basw00 C7x6o0 Basw00 C7x6o0 Basw00 C7x6o0 Bb5uo0 C7k800 Bb5uo0 C7k800 Bb5uo0 C7x6o0 Basw00 C7x6o0 Basw00 C7x6o0 Bb5uo0 C7k800 Bb5uo0 C7k800 Bb5uo0 C7k800 Bb5uo0 C7x6o0 Basw00 C7x6o0 Basw00 C7x6o0 Bb5uo0 C7k800 B1vbzw0 Cwrpg0
Asia/Omsk|LMT/17610 +05/18000 +06/21600 +07/25200|<+06>-6|B-q5xmx6 C5j6d16 Dqi27w0 C9et80 D9d440 C9et80 D9d440 C9et80 D9eys0 C9d6w0 D9d1c0 C9d1c0 D9d1c0 C9d1c0 D9d1c0 C9d1c0 D9d1c0 C9d1c0 D9d1c0 C9d1c0 D9d1c0 C9q000 Biq5g0 C5reo0 D3ljw0 C9d1c0 D9d1c0 C9d1c0 D9d1c0 C9d1c0 D9d1c0 C9d1c0 D9q000 Casw00 D7x6o0 Casw00 D7x6o0 Casw00 D7x6o0 Cb5uo0 D7k800 Cb5uo0 D7k800 Cb5uo0 D7x6o0 Casw00 D7x6o0 Casw00 D7x6o0 Cb5uo0 D7k800 Cb5uo0 D7k800 Cb5uo0 D7k800 Cb5uo0 D7x6o0 Casw00 D7x6o0 Casw00 D7x6o0 Cb5uo0 D7k800 C1vbzw0
Asia/Oral|LMT/12324 +03/10800 +05/18000 +06/21600 +04/14400|<+05>-5|B-nu15ic C37a16c Dqi2540 Cs6qk0 D9d440 C9et80 D9eys0 C9d6w0 D9d1c0 C9d1c0 D9d1c0 C9d1c0 D9d1c0 C9d1c0 D9d1c0 C9d1c0 Eiq5g0 C9d1c0 E9q000 C9d1c0 E9d1c0 C5reo0 Ecyo00 C9d1c0 E9d1c0 C9d1c0 E9d1c0 C9d1c0 E9d1c0 C9q000 Easw00 C7x6o0 Easw00 C7x6o0 Easw00 C7x6o0 Eb5uo0 C7k800 Eb5uo0 C7k800 Eb5uo0 C7x6o0 Easw00 C7x6o0 Easw00 C7x6o0
Asia/Phnom_Penh|LMT/25180 PLMT/25590 +07/25200 +08/28800 +09/32400|<+07>-7|B-x568rg C2isicm Dgj25iu E15ct80 C8so00
Asia/Pontianak|LMT/26240 PMT/26240 +0730/27000 +09/32400 +08/28800 WITA/28800 WIB/25200|WIB-7|B-w6piww Ccse2o0 D4tnu2w C1wkei0 E1cx860 C11jta0 F74uc20 Gcixam0
Asia/Pyongyang|LMT/30180 KST/30600 JST/32400 KST/32400|KST-9|B-w895yc C1yh10c Dhk5da0 B10ipmo0 D1f4qo0
Asia/Qatar|LMT/12368 +04/14400 +03/10800|<+03>-3|B-q3gmvk Crctnrk
Asia/Qostanay|LMT/15268 +04/14400 +05/18000 +06/21600|<+05>-5|B-nu17s4 C37a0o4 Dqi27w0 Cs6qk0 D9d440 C9et80 D9eys0 C9d6w0 D9d1c0 C9d1c0 D9d1c0 C9d1c0 D9d1c0 C9d1c0 D9d1c0 C9d1c0 D9d1c0 C9d1c0 D9d1c0 C9q000 Biq5g0 C5reo0 D3ljw0 C9d1c0 D9d1c0 C9d1c0 D9d1c0 C9d1c0 D9d1c0 C9d1c0 D9q000 Casw00 D7x6o0 Casw00 D7x6o0 Casw00 D7x6o0 Cb5uo0 D7k800 Cb5uo0 D7k800 Cb5uo0 D7x6o0 Casw00 D7x6o0 Casw00 D7x6o0 Caedjo0
Asia/Qyzylorda|LMT/15712 +04/14400 +05/18000 +06/21600|<+05>-5|B-nu184g C37a10g Dqi27w0 Cs6qk0 D9d440 C9et80 D9eys0 C9d6w0 D9d1c0 C9d1c0 D9d1c0 C9d1c0 D9d1c0 C9d1c0 D9d1c0 C9d1c0 D9d1c0 C9d1c0 D9d1c0 C9q000 Dohhc0 Ccyo00 D9d1c0 C9d1c0 D9d1c0 C9d1c0 D9d1c0 C9d1c0 D9q000 Casw00 D7x6o0 Casw00 D7x6o0 Casw00 D7x6o0 Cb5uo0 D7k800 Cb5uo0 D7k800 Cb5uo0 D7x6o0 Casw00 D7x6o0 Casw00 D7x6o0 C7osl00
Asia/Rangoon Asia/Yangon|LMT/23087 RMT/23087 +0630/23400 +09/32400|<+0630>-6:30|B-1ayykhb Ckvhpc0 Dbnjp3b C1kh520
Asia/Riyadh|LMT/11212 +03/10800|<+03>-3|B-bwgbbg
Asia/Sakhalin|LMT/34248 +09/32400 +11/39600 +12/43200 +10/36000|<+11>-11|B-xl87rc Ckvnarc Dikvh40 C9et80 D9d440 C9et80 D9d440 C9et80 D9eys0 C9d6w0 D9d1c0 C9d1c0 D9d1c0 C9d1c0 D9d1c0 C9d1c0 D9d1c0 C9d1c0 D9d1c0 C9d1c0 D9d1c0 C9q000 Eiq5g0 C5reo0 D3ljw0 C9d1c0 D9d1c0 C9d1c0 D9d1c0 C9d1c0 D9d1c0 C9d1c0 D9q000 Casw00 Eiq5g0 C7x6o0 Easw00 C7x6o0 Eb5uo0 C7k800 Eb5uo0 C7k800 Eb5uo0 C7x6o0 Easw00 C7x6o0 Easw00 C7x6o0 Eb5uo0 C7k800 Eb5uo0 C7k800 Eb5uo0 C7k800 Eb5uo0 C7x6o0 Easw00 C7x6o0 Easw00 C7x6o0 Eb5uo0 C7k800 E1vbzw0 Cqnc40
Asia/Samarkand|LMT/16073 +04/14400 +05/18000 +06/21600|<+05>-5|B-nu18eh C37a1ah Dqi27w0 Cs6qk0 D9d440 C9et80 D9eys0 C9d6w0 D9d1c0 C9d1c0 D9d1c0 C9d1c0 D9d1c0 C9d1c0 D9d1c0 C9d1c0 D9d1c0 C9d1c0 D9d1c0 C9q000 D9d1c0 C9d1c0
Asia/Seoul ROK|LMT/30472 KST/30600 JST/32400 KST/32400 KDT/36000 KDT/34200|KST-9|B-w8966g C1yh18g Dhkx5a0 E1faao0 D5cik0 Eae5g0 D8a2k0 Eae5g0 D8bx80 Ec8tg0 D6h980 B1bj6s0 Fl3aq0 B6j3w0 Fd2g40 B6u7w0 Fb5xg0 B776k0 Fbiw40 B776k0 Fbiw40 B776k0 Fbiw40 B776k0 Dgrs40 Edfqxi0 D7x6o0 Easw00 D7x6o0
Asia/Singapore Singapore|LMT/24925 SMT/24925 +07/25200 +0720/26400 +0730/27000 +09/32400 +08/28800|<+08>-8|B-100ewkd C2ax6o0 Deeb94d E4it32o F8n3jc E1v2p60 Giy3ms0
Asia/Srednekolymsk|LMT/36892 +10/36000 +11/39600 +12/43200|<+11>-11|B-nu1ogs C37a0os Dqi27w0 C9et80 D9d440 C9et80 D9d440 C9et80 D9eys0 C9d6w0 D9d1c0 C9d1c0 D9d1c0 C9d1c0 D9d1c0 C9d1c0 D9d1c0 C9d1c0 D9d1c0 C9d1c0 D9d1c0 C9q000 Biq5g0 C5reo0 D3ljw0 C9d1c0 D9d1c0 C9d1c0 D9d1c0 C9d1c0 D9d1c0 C9d1c0 D9q000 Casw00 D7x6o0 Casw00 D7x6o0 Casw00 D7x6o0 Cb5uo0 D7k800 Cb5uo0 D7k800 Cb5uo0 D7x6o0 Casw00 D7x6o0 Casw00 D7x6o0 Cb5uo0 D7k800 Cb5uo0 D7k800 Cb5uo0 D7k800 Cb5uo0 D7x6o0 Casw00 D7x6o0 Casw00 D7x6o0 Cb5uo0 D7k800 C1vbzw0
Asia/Taipei ROC|LMT/29160 CST/28800 JST/32400 CDT/32400|CST-8|B-12mch60 Clsd1m0 B45slc0 Dc51c0 B75bw0 Da31g0 Baaak0 D9d440 B7v980 Dawo40 B7v980 Dawo40 B7v980 Dawo40 B7v980 D7tk40 Bclmk0 D7rpg0 Bb07w0 D7rpg0 Bb07w0 D7rpg0 B9et80 D9eys0 B9et80 D9d440 B9et80 D9d440 B9et80 D9d440 B9et80 Dcjxg0 B69uk0 Dci2s0 B69uk0 D6its40 B9et80 D9d440 B9et80 D1yf9g0 B4qak0
Asia/Tashkent|LMT/16631 +05/18000 +06/21600 +07/25200|<+05>-5|B-nu18tz C379yxz Dqi27w0 C9et80 D9d440 C9et80 D9d440 C9et80 D9eys0 C9d6w0 D9d1c0 C9d1c0 D9d1c0 C9d1c0 D9d1c0 C9d1c0 D9d1c0 C9d1c0 D9d1c0 C9d1c0 D9d1c0 C9q000 Biq5g0
Asia/Tbilisi|LMT/10751 TBMT/10751 +03/10800 +04/14400 +05/18000|<+04>-4|B-1ayyayn Cn4x6o0 Dh4tjyn Eckinw0 D9et80 E9d440 D9et80 E9d440 D9et80 E9eys0 D9d6w0 E9d1c0 D9d1c0 E9d1c0 D9d1c0 E9d1c0 D9d1c0 E9d1c0 D9d1c0 E9d1c0 D9d1c0 E9d1c0 D9q000 Ciq5g0 D9cvs0 C9cyk0 D9d440 C9cyk0 D9d440 Eipzw0 D9cyk0 E9q2s0 Dtivw0 E7x9g0 Dast80 E7x9g0 Db5rw0 E7kas0 Db5rw0 E7kas0 Db5rw0 E7x9g0 Dast80 E7x9g0 Dast80 E7x9g0 D4ofw0 C6hn40 D7k800
Asia/Tehran Iran|LMT/12344 TMT/12344 +0330/12600 +0430/16200 +04/14400 +05/18000|<+0330>-3:30|B-s6m6uw Ca5dpc0 Dlsvh0w Eayg00 F7z2q0 E6uao0 C51hc0 Da4uq0 C5wvw0 D9gtg0 C9kd80 D5ja5g0 C7avw0 D9d440 C9gnw0 D9b9g0 C9gnw0 D9b9g0 C9gnw0 D9b9g0 C9gnw0 D9b9g0 C9gnw0 D9d440 C9gnw0 D9b9g0 C9gnw0 D9b9g0 C9gnw0 D9b9g0 C9gnw0 D9d440 C9gnw0 D9b9g0 C9gnw0 D9b9g0 C9gnw0 D9b9g0 C9gnw0 D9d440 C9gnw0 D1av440 C9gnw0 D9d440 C9gnw0 D9b9g0 C9gnw0 D9b9g0 C9gnw0 D9b9g0 C9gnw0 D9d440 C9gnw0 D9b9g0 C9gnw0 D9b9g0 C9gnw0 D9b9g0 C9gnw0 D9d440 C9gnw0 D9b9g0 C9gnw0 D9b9g0 C9gnw0 D9b9g0 C9gnw0 D9d440 C9gnw0 D9b9g0 C9gnw0
Asia/Thimbu Asia/Thimphu|LMT/21516 +0530/19800 +06/21600|<+06>-6|B-bojclo Ckxymno
Asia/Tokyo Japan|LMT/33539 JST/32400 JDT/36000|JST-9|B-16snno0 Cvhjeo0 B6uao0 Cafxc0 B8a5c0 Cc8qo0 B6hc00 Cc8qo0 B6hc00
Asia/Tomsk|LMT/20391 +06/21600 +07/25200 +08/28800|<+07>-7|B-q3zbqf C5h7z2f Dqi27w0 C9et80 D9d440 C9et80 D9d440 C9et80 D9eys0 C9d6w0 D9d1c0 C9d1c0 D9d1c0 C9d1c0 D9d1c0 C9d1c0 D9d1c0 C9d1c0 D9d1c0 C9d1c0 D9d1c0 C9q000 Biq5g0 C5reo0 D3ljw0 C9d1c0 D9d1c0 C9d1c0 D9d1c0 C9d1c0 D9d1c0 C9d1c0 D9q000 Casw00 D7x6o0 Casw00 D7x6o0 Casw00 D7x6o0 Cb5uo0 D7k800 Cb5uo0 D7k800 Cb5uo0 D7x6o0 C1leo0 B97k40 C7x6o0 Basw00 C7x6o0 Bb5uo0 C7k800 Bb5uo0 C7k800 Bb5uo0 C7k800 Bb5uo0 C7x6o0 Basw00 C7x6o0 Basw00 C7x6o0 Bb5uo0 C7k800 B1vbzw0 Ctw040
Asia/Ust-Nera|LMT/34374 +08/28800 +09/32400 +12/43200 +11/39600 +10/36000|<+10>-10|B-q4cl6u C5hl2yu Dqi27w0 E9eno0 D9d440 E9et80 D9d440 E9et80 D9eys0 E9d6w0 D9d1c0 E9d1c0 D9d1c0 E9d1c0 D9d1c0 E9d1c0 D9d1c0 E9d1c0 D9d1c0 E9d1c0 D9d1c0 E9q000 Fiq5g0 E5reo0 D3ljw0 E9d1c0 D9d1c0 E9d1c0 D9d1c0 E9d1c0 D9d1c0 E9d1c0 D9q000 Easw00 D7x6o0 Easw00 D7x6o0 Easw00 D7x6o0 Eb5uo0 D7k800 Eb5uo0 D7k800 Eb5uo0 D7x6o0 Easw00 D7x6o0 Easw00 D7x6o0 Eb5uo0 D7k800 Eb5uo0 D7k800 Eb5uo0 D7k800 Eb5uo0 D7x6o0 Easw00 D7x6o0 Easw00 D7x6o0 Eb5uo0 D7k800 E8ql00 F1mlho0
Asia/Vientiane|LMT/24624 PLMT/25590 +07/25200 +08/28800 +09/32400|<+07>-7|B-x568c0 C2ishx6 Dgj25iu E15ct80 C8so00 Dtmtk0 C470yk0
Asia/Vladivostok|LMT/31651 +09/32400 +10/36000 +11/39600|<+10>-10|B-oligf7 C3yqvf7 Dqi27w0 C9et80 D9d440 C9et80 D9d440 C9et80 D9eys0 C9d6w0 D9d1c0 C9d1c0 D9d1c0 C9d1c0 D9d1c0 C9d1c0 D9d1c0 C9d1c0 D9d1c0 C9d1c0 D9d1c0 C9q000 Biq5g0 C5reo0 D3ljw0 C9d1c0 D9d1c0 C9d1c0 D9d1c0 C9d1c0 D9d1c0 C9d1c0 D9q000 Casw00 D7x6o0 Casw00 D7x6o0 Casw00 D7x6o0 Cb5uo0 D7k800 Cb5uo0 D7k800 Cb5uo0 D7x6o0 Casw00 D7x6o0 Casw00 D7x6o0 Cb5uo0 D7k800 Cb5uo0 D7k800 Cb5uo0 D7k800 Cb5uo0 D7x6o0 Casw00 D7x6o0 Casw00 D7x6o0 Cb5uo0 D7k800 C1vbzw0
Asia/Yakutsk|LMT/31138 +08/28800 +09/32400 +10/36000|<+09>-9|B-q4cioy C5hl0gy Dqi27w0 C9et80 D9d440 C9et80 D9d440 C9et80 D9eys0 C9d6w0 D9d1c0 C9d1c0 D9d1c0 C9d1c0 D9d1c0 C9d1c0 D9d1c0 C9d1c0 D9d1c0 C9d1c0 D9d1c0 C9q000 Biq5g0 C5reo0 D3ljw0 C9d1c0 D9d1c0 C9d1c0 D9d1c0 C9d1c0 D9d1c0 C9d1c0 D9q000 Casw00 D7x6o0 Casw00 D7x6o0 Casw00 D7x6o0 Cb5uo0 D7k800 Cb5uo0 D7k800 Cb5uo0 D7x6o0 Casw00 D7x6o0 Casw00 D7x6o0 Cb5uo0 D7k800 Cb5uo0 D7k800 Cb5uo0 D7k800 Cb5uo0 D7x6o0 Casw00 D7x6o0 Casw00 D7x6o0 Cb5uo0 D7k800 C1vbzw0
Asia/Yekaterinburg|LMT/14553 PMT/13505 +04/14400 +05/18000 +06/21600|<+05>-5|B-rx5hw9 C1kybx4 D5pfyv5 Eqi27w0 D9et80 E9d440 D9et80 E9d440 D9et80 E9eys0 D9d6w0 E9d1c0 D9d1c0 E9d1c0 D9d1c0 E9d1c0 D9d1c0 E9d1c0 D9d1c0 E9d1c0 D9d1c0 E9d1c0 D9q000 Ciq5g0 D5reo0 E3ljw0 D9d1c0 E9d1c0 D9d1c0 E9d1c0 D9d1c0 E9d1c0 D9d1c0 E9q000 Dasw00 E7x6o0 Dasw00 E7x6o0 Dasw00 E7x6o0 Db5uo0 E7k800 Db5uo0 E7k800 Db5uo0 E7x6o0 Dasw00 E7x6o0 Dasw00 E7x6o0 Db5uo0 E7k800 Db5uo0 E7k800 Db5uo0 E7k800 Db5uo0 E7x6o0 Dasw00 E7x6o0 Dasw00 E7x6o0 Db5uo0 E7k800 D1vbzw0
Asia/Yerevan|LMT/10680 +03/10800 +04/14400 +05/18000|<+04>-4|B-nu148o Ch4tjwo Dckinw0 C9et80 D9d440 C9et80 D9d440 C9et80 D9eys0 C9d6w0 D9d1c0 C9d1c0 D9d1c0 C9d1c0 D9d1c0 C9d1c0 D9d1c0 C9d1c0 D9d1c0 C9d1c0 D9d1c0 C9q000 Biq5g0 C9d1c0 B9d1c0 C9d1c0 B9d1c0 C9d1c0 B9d1c0 C9d1c0 D11t180 Casw00 D7x6o0 Casw00 D7x6o0 Cb5uo0 D7k800 Cb5uo0 D7k800 Cb5uo0 D7x6o0 Casw00 D7x6o0 Casw00 D7x6o0 Cb5uo0 D7k800 Cb5uo0 D7k800 Cb5uo0 D7k800 Cb5uo0 D7x6o0 Casw00 D7x6o0 Casw00 D7x6o0 Cb5uo0 D7k800 Cb5uo0
Atlantic/Azores|LMT/-6160 HMT/-6872 -02/-7200 -01/-3600 +00/0 WET/0 WEST/3600|<-01>1<+00>,M3.5.0/0,M10.5.0/1|B-18vsdww Cem124w D2bufw0 C6zxg0 D66800 Cbq580 D71s40 Cbq580 D71s40 Cbq580 D73ms0 Cbq580 D71s40 Cbq580 D1b2g00 C8so00 Dst1c0 C8n400 D9q000 C902o0 Da2yo0 C902o0 Da2yo0 C8n400 Dst1c0 C8n400 D9d1c0 C9d1c0 Dsg2o0 C9d1c0 D902o0 C9q000 Da2yo0 C8n400 D9d1c0 C9d1c0 D902o0 C9q000 Da2yo0 Cb5uo0 D51hc0 Cbmio0 D99c00 C9ew00 D88ao0 E25p80 D5reo0 C3lpg0 D779c0 E1sqk0 D6uao0 C38qs0 D6uao0 E25p80 D6hc00 C38qs0 D6uao0 E25p80 D6hc00 C38qs0 D8a5c0 C9d1c0 D9d9o0 C9d1c0 D9d1c0 C9d1c0 D9d1c0 C9d1c0 D9d1c0 C9d1c0 D9d1c0 C9q000 D9d1c0 C9d1c0 D9d1c0 C9d1c0 D9d1c0 C9d1c0 D9d1c0 C9d1c0 D9d1c0 C9q000 D9d1c0 C9d1c0 D9d1c0 C9d1c0 D9d1c0 C9d1c0 D9d1c0 C9d1c0 D9d1c0 C9d1c0 D9d1c0 C9q000 D9d1c0 C9d1c0 D9d1c0 C9d1c0 D9d1c0 C9d1c0 D9d1c0 E8cavo0 D9d1c0 E9d1c0 D9d1c0 E9d1c0 D9q000 E9d1c0 D9d1c0 E9d1c0 D9d1c0 E9d1c0 D9d1c0 E9d1c0 D9d1c0 E9d1c0 D9d1c0 E9d1c0 D9q000 E9d1c0 D9d1c0 E9d1c0 D9d1c0 F4olg0 G4ofw0 E46000 D571c0 E9d1c0 D9d1c0 E9d1c0 D9d1c0 E9q000
Atlantic/Bermuda|LMT/-15558 BMT/-15558 BST/-11958 AST/-14400 ADT/-10800|AST4ADT,M3.2.0,M11.1.0|B-15r0xbu Ce851c0 B95jw0 Ca16s0 B7yyk0 D5w74c0 E69z5ru Deefw0 E7x9g0 Dbiqk0 E6udg0 Dc8nw0 E6hes0 Dc8nw0 Est440 D64ak0 Ecyqs0 D5ed80 Edbpg0 D5ed80 Edoo40 D51ek0 Edoo40 D51ek0 Edoo40 D5ed80 E1xuw40 D7x3w0 E94r9g0 D9cyk0 E9d440 D9cyk0 E9d440 D9px80 E905g0 D9px80 E9d440 D9cyk0 E9d440 D9cyk0 E9d440 D9cyk0 E9d440 D9cyk0 E9d440 D9px80 E905g0 D9px80 E9d440 D9cyk0 E9d440 D9cyk0 E9d440 D9cyk0 E8a840 Dafuk0 E8a840 Dast80 E7x9g0 Dast80 E7x9g0 Dast80 E8a840 Dafuk0 E8a840 Dafuk0 E8a840 Dast80 E7x9g0 Dast80 E7x9g0 Dast80 E8a840 Dafuk0 E8a840 Dafuk0 E8a840 Dafuk0 E8a840 Dast80 E7x9g0 Dast80 E7x9g0 Dast80 E8a840 Dafuk0 E8a840 Dafuk0 E8a840 Dast80 E7x9g0 Dast80 E7x9g0 Dast80 E6udg0
Atlantic/Canary|LMT/-3696 -01/-3600 WET/0 WEST/3600|WET0WEST,M3.5.0/1,M10.5.0|B-oytbtc Cctvupc Dhhq7s0 C905g0 D9d1c0 C9d1c0 D9d1c0 C9d1c0 D9d1c0 C9d1c0 D9d1c0 C9q000 D9d1c0 C9d1c0 D9d1c0 C9d1c0 D9d1c0 C9d1c0 D9d1c0 C9d1c0 D9d1c0 C9d1c0 D9d1c0 C9q000 D9d1c0 C9d1c0 D9d1c0 C9d1c0 D9d1c0 C9d1c0 D9d1c0 C9d1c0 D9d1c0 C9d1c0 D9q000
Atlantic/Cape_Verde|LMT/-5644 -02/-7200 -01/-3600|<-01>1|B-u9rbs0 Cg06lc0 B1mn180 Cfpqwc0
Atlantic/Faeroe Atlantic/Faroe|LMT/-1624 WET/0 WEST/3600|WET0WEST,M3.5.0/1,M10.5.0|B-wcehew C127keuw B9d1c0 C9d1c0 B9d1c0 C9d1c0 B9d1c0 C9d1c0 B9q000 C9d1c0 B9d1c0 C9d1c0 B9d1c0 C9d1c0 B9d1c0 C9d1c0 B9d1c0 C9d1c0 B9d1c0 C9d1c0 B9q000 C9d1c0 B9d1c0 C9d1c0 B9d1c0 C9d1c0 B9d1c0 C9d1c0 B9d1c0 C9d1c0 B9d1c0 C9q000
Atlantic/Madeira|LMT/-4056 FMT/-4056 -01/-3600 +00/0 +01/3600 WET/0 WEST/3600|WET0WEST,M3.5.0/1,M10.5.0|B-18vsfjc Cem10zc D2bufw0 C6zxg0 D66800 Cbq580 D71s40 Cbq580 D71s40 Cbq580 D73ms0 Cbq580 D71s40 Cbq580 D1b2g00 C8so00 Dst1c0 C8n400 D9q000 C902o0 Da2yo0 C902o0 Da2yo0 C8n400 Dst1c0 C8n400 D9d1c0 C9d1c0 Dsg2o0 C9d1c0 D902o0 C9q000 Da2yo0 C8n400 D9d1c0 C9d1c0 D902o0 C9q000 Da2yo0 Cb5uo0 D51hc0 Cbmio0 D99c00 C9ew00 D88ao0 E25p80 D5reo0 C3lpg0 D779c0 E1sqk0 D6uao0 C38qs0 D6uao0 E25p80 D6hc00 C38qs0 D6uao0 E25p80 D6hc00 C38qs0 D8a5c0 C9d1c0 D9d9o0 C9d1c0 D9d1c0 C9d1c0 D9d1c0 C9d1c0 D9d1c0 C9d1c0 D9d1c0 C9q000 D9d1c0 C9d1c0 D9d1c0 C9d1c0 D9d1c0 C9d1c0 D9d1c0 C9d1c0 D9d1c0 C9q000 D9d1c0 C9d1c0 D9d1c0 C9d1c0 D9d1c0 C9d1c0 D9d1c0 C9d1c0 D9d1c0 C9d1c0 D9d1c0 C9q000 D9d1c0 C9d1c0 D9d1c0 C9d1c0 D9d1c0 C9d1c0 D9d1c0 F9d1c0 G83at00 F902o0 G9d1c0 F9d1c0 G9d1c0 F9q000 G9d1c0 F9d1c0 G9d1c0 F9d440 G9d1c0 F9d1c0 G9d1c0 F9d1c0 G9d1c0 F9d1c0 G9d1c0 F9q000 G9d1c0 F9d1c0 G9d1c0 F9d1c0 G9d1c0 F9d1c0 G9d1c0 F9d1c0 G9d1c0 F9d1c0 G9q000
Atlantic/Reykjavik|LMT/-5280 -01/-3600 +00/0 GMT/0|GMT0|B-wcwx9c C4rpd9c Bci2s0 C69uk0 Bdu840 C4xp80 Bdu840 Cp7bw0 B4w040 C9bdzw0 B9d6w0 C64g40 Bcyl80 C64dc0 Bclpc0 C6hc00 Bbvs00 C6uao0 Bbvs00 C6uao0 Bbvs00 C6uao0 Bc8qo0 C6hc00 Bc8qo0 C8a5c0 Bafxc0 C8a5c0 Bafxc0 C8a5c0 Basw00 C7x6o0 Bafxc0 C8a5c0 Basw00 C8a5c0 Bafxc0 C8a5c0 Bafxc0 C8a5c0 Bafxc0 C8a5c0 Bafxc0 C8a5c0 Basw00 C8a5c0 Bafxc0 C8a5c0 Bafxc0 C8a5c0 Bafxc0 C8a5c0 Bafxc0 C8a5c0 Bafxc0 C8a5c0 Basw00 C8a5c0 Bafxc0 C8a5c0 Bafxc0 C8a5c0 Bafxc0 C8a5c0 Bafxc0 C8a5c0 Basw00 D8a5c0
Atlantic/South_Georgia|LMT/-8768 -02/-7200|<-02>2|B-15r12kg
Atlantic/St_Helena|LMT/-1368 JMT/-1368 GMT/0|GMT0|B-15r18a0 Cvu1eo0
Atlantic/Stanley|LMT/-13884 SMT/-13884 -04/-14400 -03/-10800 -02/-7200|<-03>3|B-15r0ymc Cbkx9c0 Ddbvxqc C8zzw0 D9q2s0 C8zzw0 Da31g0 C8zzw0 D9q2s0 C8zzw0 D9q2s0 C8zzw0 D9q2s0 C4xp80 Dl1pus0 E7k580 Db5rw0 E77c40 Dbiqk0 Cid6s0 D7kas0 Cb5rw0 D7kas0 Cb5rw0 D7kas0 Cb5rw0 D7kas0 Cbiqk0 D77c40 Cbiqk0 D7kas0 Cb5rw0 D7kas0 Cb5rw0 D7kas0 Cb5rw0 D7kas0 Cb5rw0 D7kas0 Cbiqk0 D7kas0 Cb5rw0 D7kas0 Cb5rw0 D7kas0 Cb5rw0 D7kas0 Cb5rw0 D7kas0 Cb5xg0 D77c40 Cbvp80 D6udg0 Cbvp80 D77c40 Cbiqk0 D77c40 Cbiqk0 D77c40 Cbiqk0 D77c40 Cbiqk0 D77c40 Cbvp80 D77c40 Cbiqk0 D77c40 Cbiqk0 D77c40
Australia/ACT Australia/Canberra Australia/NSW Australia/Sydney|LMT/36292 AEST/36000 AEDT/39600|AEST-10AEDT,M10.1.0,M4.1.0/3|B-133j5c4 Cbfqds4 B49pc0 Ccxfk00 B4h400 C9d1c0 B9d1c0 C9q000 B902o0 Ceeio00 B64dc0 Cclpc0 B6hc00 Cc8qo0 B6hc00 Cc8qo0 B6hc00 Cc8qo0 B6uao0 Cc8qo0 B6hc00 Cc8qo0 B6hc00 Cc8qo0 B6hc00 Cc8qo0 B6hc00 Cc8qo0 B6hc00 Cc8qo0 B8a5c0 Casw00 B6hc00 Cc8qo0 B6hc00 Cc8qo0 B6hc00 Cc8qo0 B779c0 Cb5uo0 B7k800 Cbitc0 B7k800 Cbitc0 B779c0 Cbitc0 B6hc00 Cc8qo0 B6hc00 Cc8qo0 B6hc00 Cc8qo0 B6uao0 Cc8qo0 B6hc00 Cc8qo0 B6hc00 Cc8qo0 B7x6o0 Casw00 B7x6o0 Casw00 B7x6o0 Casw00 B7x6o0 Cb5uo0 B7k800 C7x6o0 Basw00 Cb5uo0 B7x6o0 Casw00 B7x6o0 Casw00 B7x6o0 Cb5uo0 B7k800 Cb5uo0 B7x6o0 Casw00 B7k800 Cb5uo0
Australia/Adelaide Australia/South|LMT/33260 ACST/32400 ACST/34200 ACDT/37800|ACST-9:30ACDT,M10.1.0,M4.1.0/3|B-133j2zw C27qdzw D97zyu0 C49pc0 Dcxfk00 C4h400 D9d1c0 C9d1c0 D9q000 C902o0 Deeio00 C64dc0 Dclpc0 C6hc00 Dc8qo0 C6hc00 Dc8qo0 C6hc00 Dc8qo0 C6uao0 Dc8qo0 C6hc00 Dc8qo0 C6hc00 Dc8qo0 C6hc00 Dc8qo0 C6hc00 Dc8qo0 C6hc00 Dc8qo0 C6uao0 Dc8qo0 C6hc00 Dc8qo0 C6hc00 Dc8qo0 C6hc00 Dc8qo0 C779c0 Db5uo0 C7k800 Dbitc0 C7k800 Dbitc0 C779c0 Dbitc0 C779c0 Dbitc0 C6hc00 Dc8qo0 C7k800 Db5uo0 C6uao0 Dc8qo0 C779c0 Dbitc0 C7k800 Db5uo0 C7x6o0 Dasw00 C7x6o0 Dasw00 C7x6o0 Dasw00 C7x6o0 Db5uo0 C7k800 Db5uo0 C7k800 Db5uo0 C7x6o0 Dasw00 C7x6o0 Dasw00 C7x6o0 Db5uo0 C7k800 Db5uo0 C7x6o0 Dasw00 C7k800 Db5uo0
Australia/Brisbane Australia/Queensland|LMT/36728 AEST/36000 AEDT/39600|AEST-10|B-1354kc8 Cbhbss8 B49pc0 Ccxfk00 B4h400 C9d1c0 B9d1c0 C9q000 B902o0 Ceeio00 B64dc0 C97zuo0 B6hc00 Cc8qo0 B6hc00 Cc8qo0 B6hc00
Australia/Broken_Hill Australia/Yancowinna|LMT/33948 AEST/36000 ACST/32400 ACST/34200 ACDT/37800|ACST-9:30ACDT,M10.1.0,M4.1.0/3|B-133j3j0 Ct9nr0 D1egqs0 E97zyu0 D49pc0 Ecxfk00 D4h400 E9d1c0 D9d1c0 E9q000 D902o0 Eeeio00 D64dc0 Eclpc0 D6hc00 Ec8qo0 D6hc00 Ec8qo0 D6hc00 Ec8qo0 D6uao0 Ec8qo0 D6hc00 Ec8qo0 D6hc00 Ec8qo0 D6hc00 Ec8qo0 D6hc00 Ec8qo0 D6hc00 Ec8qo0 D8a5c0 Easw00 D6hc00 Ec8qo0 D6hc00 Ec8qo0 D6hc00 Ec8qo0 D779c0 Eb5uo0 D7k800 Ebitc0 D7k800 Ebitc0 D779c0 Ebitc0 D6hc00 Ec8qo0 D6hc00 Ec8qo0 D6hc00 Ec8qo0 D6uao0 Ec8qo0 D6hc00 Ec8qo0 D6hc00 Ec8qo0 D7x6o0 Easw00 D7x6o0 Easw00 D7x6o0 Easw00 D7x6o0 Eb5uo0 D7k800 Eb5uo0 D7k800 Eb5uo0 D7x6o0 Easw00 D7x6o0 Easw00 D7x6o0 Eb5uo0 D7k800 Eb5uo0 D7x6o0 Easw00 D7k800 Eb5uo0
Australia/Currie Australia/Hobart Australia/Tasmania|LMT/35356 AEST/36000 AEDT/39600|AEST-10AEDT,M10.1.0,M4.1.0/3|B-12smja4 Cb03ee4 B902o0 Cb5uo0 B6hc00 Cc8qo0 B6hc00 Cbx2ao0 B4h400 C9d1c0 B9d1c0 C9q000 B902o0 Cc9tk00 B9d1c0 Casw00 B6uao0 Cbvs00 B6uao0 Cbvs00 B779c0 Cbvs00 B64dc0 Cclpc0 B6hc00 Cc8qo0 B6hc00 Cc8qo0 B6hc00 Cc8qo0 B6uao0 Cc8qo0 B6hc00 Cc8qo0 B6hc00 Cc8qo0 B6hc00 Cc8qo0 B6hc00 Cc8qo0 B6hc00 Cc8qo0 B7x6o0 Cb5uo0 B7k800 Cb5uo0 B6hc00 Cc8qo0 B6hc00 Cc8qo0 B6hc00 Cbvs00 B7k800 Cbitc0 B7k800 Cbitc0 B779c0 Cbitc0 B779c0 Cbitc0 B7x6o0 C9q000 B902o0 C9q000 B902o0 C9q000 B902o0 C9q000 B902o0 C9q000 B9d1c0 C9q000 B902o0 C9q000 B902o0 C9q000 B902o0 C9q000 B902o0 C7x6o0 Basw00 Ca2yo0 B902o0 C9q000 B902o0 C9q000 B902o0 C9q000 B902o0 C9q000 B9d1c0 C9d1c0 B902o0 Ca2yo0
Australia/Darwin Australia/North|LMT/31400 ACST/32400 ACST/34200 ACDT/37800|ACST-9:30|B-133j1k8 C27qck8 D97zyu0 C49pc0 Dcxfk00 C4h400 D9d1c0 C9d1c0 D9q000 C902o0
Australia/Eucla|LMT/30928 +0845/31500 +0945/35100|<+0845>-8:45|B-12nxx74 Cb05944 B49pc0 Ccxfk00 B4h400 C9d1c0 B9d1c0 Cgheyo0 B6hc00 C4ir9c0 B6hc00 C40r400 B5eg00 C7p9hc0 B5reo0 Cb5uo0 B7x6o0 Casw00 B7x6o0
Australia/LHI Australia/Lord_Howe|LMT/38180 AEST/36000 +1030/37800 +1130/41400 +11/39600|<+1030>-10:30<+11>-11,M10.1.0,M4.1.0|B-133j6sk C18x8f0k Dc8uu0 C6u7w0 Dc8tg0 C6h980 Dc8tg0 C6h980 Dc8tg0 C6h980 Ec8tg0 C777y0 Eb5w20 C7k6m0 Ebiuq0 C7k6m0 Ebiuq0 C777y0 Ebiuq0 C6ham0 Ec8s20 C6ham0 Ec8s20 C6ham0 Ec8s20 C6u9a0 Ec8s20 C6ham0 Ec8s20 C6ham0 Ec8s20 C7x5a0 Easxe0 C7x5a0 Easxe0 C7x5a0 Easxe0 C7x5a0 Eb5w20 C7k6m0 E7x820 Casum0 Eb5w20 C7x5a0 Easxe0 C7x5a0 Easxe0 C7x5a0 Eb5w20 C7k6m0 Eb5w20 C7x5a0 Easxe0 C7k6m0 Eb5w20
Australia/Lindeman|LMT/35756 AEST/36000 AEDT/39600|AEST-10|B-1354jl8 Cbhbs18 B49pc0 Ccxfk00 B4h400 C9d1c0 B9d1c0 C9q000 B902o0 Ceeio00 B64dc0 C97zuo0 B6hc00 Cc8qo0 B6hc00 Cc8qo0 B6hc00 Cc8qo0 B6uao0 Cc8qo0 B6hc00
Australia/Melbourne Australia/Victoria|LMT/34792 AEST/36000 AEDT/39600|AEST-10AEDT,M10.1.0,M4.1.0/3|B-133j46g Cbfqcmg B49pc0 Ccxfk00 B4h400 C9d1c0 B9d1c0 C9q000 B902o0 Ceeio00 B64dc0 Cclpc0 B6hc00 Cc8qo0 B6hc00 Cc8qo0 B6hc00 Cc8qo0 B6uao0 Cc8qo0 B6hc00 Cc8qo0 B6hc00 Cc8qo0 B6hc00 Cc8qo0 B6hc00 Cc8qo0 B6hc00 Cc8qo0 B6uao0 Cc8qo0 B6hc00 Cc8qo0 B6hc00 Cc8qo0 B6hc00 Cc8qo0 B779c0 Cb5uo0 B7k800 Cb5uo0 B7x6o0 Cbitc0 B779c0 Cbitc0 B779c0 Cbitc0 B6hc00 Cc8qo0 B6hc00 Cc8qo0 B6uao0 Cc8qo0 B6hc00 Cc8qo0 B7k800 Cb5uo0 B7x6o0 Casw00 B7x6o0 Casw00 B7x6o0 Casw00 B7x6o0 Cb5uo0 B7k800 C7x6o0 Basw00 Cb5uo0 B7x6o0 Casw00 B7x6o0 Casw00 B7x6o0 Cb5uo0 B7k800 Cb5uo0 B7x6o0 Casw00 B7k800 Cb5uo0
Australia/Perth Australia/West|LMT/27804 AWST/28800 AWDT/32400|AWST-8|B-12nxusc Cb058sc B49pc0 Ccxfk00 B4h400 C9d1c0 B9d1c0 Cgheyo0 B6hc00 C4ir9c0 B6hc00 C40r400 B5eg00 C7p9hc0 B5reo0 Cb5uo0 B7x6o0 Casw00 B7x6o0
CET|CET/3600 CEST/7200|CET-1CEST,M3.5.0,M10.5.0/3|B-s0e080 A7ves0 Ba4yw0 A7x6o0 Basw00 A7x6o0 Bb8qdc0 A1cm000 B7k800 A9q000 B9d1c0 A9d1c0 B9d1c0 A8l9c0 Bggp1c0 A902o0 B9q000 A9d1c0 B9d1c0 A9d1c0 B9q000 A902o0 B9d1c0 A9d1c0 B9d1c0 A9d1c0 B9d1c0 A9d1c0 B9d1c0 A9q000 B9d1c0 A9d1c0 B9d1c0 A9d1c0 B9d1c0 A9d1c0 B9d1c0 A9d1c0 B9d1c0 A9d1c0 B9d1c0 A9q000 B9d1c0 A9d1c0 B9d1c0 A9d1c0 B9d1c0 A9d1c0 B9d1c0 A9d1c0 B9d1c0 A9d1c0 B9q000
CST6CDT|CST/-21600 CDT/-18000 CWT/-18000 CPT/-18000|CST6CDT,M3.2.0,M11.1.0|B-r0esg0 Aast80 B7x9g0 Aast80 Cbmtus0 D1tz8c0 A2dsw0 Bb9gdg0 A9cyk0 B9d440 A9cyk0 B9d440 A9cyk0 B9d440 A9cyk0 B9d440 A9px80 B9d440 A9cyk0 B9d440 A9cyk0 B3lpg0 Af4d80 B64g40 Aclmk0 B9d440 A9px80 B905g0 A9px80 B9d440 A9cyk0 B9d440 A9cyk0 B9d440 A9cyk0 B9d440 A9cyk0 B9d440 A9px80 B905g0 A9px80 B9d440 A9cyk0 B9d440 A9cyk0 B9d440 A9cyk0 B8a840 Aafuk0 B8a840 Aast80 B7x9g0 Aast80 B7x9g0 Aast80 B8a840 Aafuk0 B8a840 Aafuk0 B8a840 Aast80 B7x9g0 Aast80 B7x9g0 Aast80 B8a840 Aafuk0 B8a840 Aafuk0 B8a840 Aafuk0 B8a840 Aast80 B7x9g0 Aast80 B7x9g0 Aast80 B8a840 Aafuk0 B8a840 Aafuk0 B8a840 Aast80 B7x9g0 Aast80 B7x9g0 Aast80 B6udg0
Chile/EasterIsland Pacific/Easter|LMT/-26248 EMT/-26248 -07/-25200 -06/-21600 -05/-18000|<-06>6<-05>,M9.1.6/22,M4.1.6/22|B-15r0p2w Cm9leo0 Divmeuw C7k580 Dc8tg0 C6h980 Da31g0 C7x3w0 Dasys0 C7x3w0 Db5xg0 C7k580 Dag040 C8a2k0 Db5xg0 C7k580 Db5xg0 C7x3w0 Dasys0 C7x3w0 Dasys0 C7x3w0 Db5xg0 C7k580 Db5xg0 C7k580 Db5xg0 C7x3w0 Dasys0 Eiq2o0 D7x3w0 Easys0 D7x3w0 Eb5xg0 D7k580 Eb5xg0 D7k580 Eb5xg0 D9cyk0 E9d440 D7x3w0 Easys0 D7x3w0 Eb5xg0 D7k580 E9q2s0 D8zzw0 Eb5xg0 D7x3w0 Easys0 D7x3w0 Easys0 D7x3w0 Easys0 D7x3w0 Eb5xg0 D7k580 Eb5xg0 D8n180 Ea31g0 D7x3w0 Ea31g0 D9px80 E9q2s0 D7x3w0 Eb5xg0 D7k580 Eb5xg0 D7k580 Eb5xg0 D7k580 Eb5xg0 D7x3w0 Easys0 D7x3w0 Easys0 D7x3w0 Eb5xg0 D7k580 Eb5xg0 D8n180 Ea31g0 D7x3w0 Easys0 D8zzw0 E9q2s0 Dast80 E5eis0 Dcyl80 E6hes0 Dc8nw0 E6udg0 Dbvp80 E6udg0 Dvonw0 E4olg0 De1h80 E4olg0 De1h80 E4olg0 Dc8nw0 E7x9g0 Dast80 E7x9g0 Dast80 E7x9g0 Dast80 E8a840
EET|EET/7200 EEST/10800|EET-2EEST,M3.5.0/3,M10.5.0/4|B3s9ms0 A902o0 B9q000 A9d1c0 B9d1c0 A9d1c0 B9q000 A902o0 B9d1c0 A9d1c0 B9d1c0 A9d1c0 B9d1c0 A9d1c0 B9d1c0 A9q000 B9d1c0 A9d1c0 B9d1c0 A9d1c0 B9d1c0 A9d1c0 B9d1c0 A9d1c0 B9d1c0 A9d1c0 B9d1c0 A9q000 B9d1c0 A9d1c0 B9d1c0 A9d1c0 B9d1c0 A9d1c0 B9d1c0 A9d1c0 B9d1c0 A9d1c0 B9q000
EST|EST/-18000|EST5|
EST5EDT|EST/-18000 EDT/-14400 EWT/-14400 EPT/-14400|EST5EDT,M3.2.0,M11.1.0|B-r0ev80 Aast80 B7x9g0 Aast80 Cbmtus0 D1tzb40 A2dq40 Bb9gdg0 A9cyk0 B9d440 A9cyk0 B9d440 A9cyk0 B9d440 A9cyk0 B9d440 A9px80 B9d440 A9cyk0 B9d440 A9cyk0 B3lpg0 Af4d80 B64g40 Aclmk0 B9d440 A9px80 B905g0 A9px80 B9d440 A9cyk0 B9d440 A9cyk0 B9d440 A9cyk0 B9d440 A9cyk0 B9d440 A9px80 B905g0 A9px80 B9d440 A9cyk0 B9d440 A9cyk0 B9d440 A9cyk0 B8a840 Aafuk0 B8a840 Aast80 B7x9g0 Aast80 B7x9g0 Aast80 B8a840 Aafuk0 B8a840 Aafuk0 B8a840 Aast80 B7x9g0 Aast80 B7x9g0 Aast80 B8a840 Aafuk0 B8a840 Aafuk0 B8a840 Aafuk0 B8a840 Aast80 B7x9g0 Aast80 B7x9g0 Aast80 B8a840 Aafuk0 B8a840 Aafuk0 B8a840 Aast80 B7x9g0 Aast80 B7x9g0 Aast80 B6udg0
Eire Europe/Dublin|LMT/-1521 DMT/-1521 IST/2079 GMT/0 BST/3600 IST/3600|GMT0IST,M3.5.0/1,M10.5.0|B-1anxqtr Ciol480 D6uao0 E9pytr D8c000 E9o5c0 D9ruo0 E9b6o0 D9ew00 E9b6o0 Dauqo0 E88ao0 D9ew00 F8y800 Da2yo0 Fa2yo0 D7k800 Fasw00 D8a5c0 Fasw00 D8n400 Fa2yo0 D8n400 F9q000 D902o0 Fafxc0 D8n400 Fa2yo0 D8n400 F9q000 D902o0 Fa2yo0 D8n400 Fa2yo0 D8n400 F9q000 D9d1c0 Fa2yo0 D8n400 F9q000 D902o0 Fa2yo0 D8n400 Fa2yo0 D8n400 F9q000 D902o0 Fa2yo0 Db5uo0 F51hc0 D3g8800 F8a5c0 Dbvs00 F8n400 Da2yo0 F7x6o0 Dasw00 F8n400 D9q000 F902o0 D9q000 F9d1c0 D9q000 F902o0 D8n400 F9q000 D902o0 Fa2yo0 D8n400 Fafxc0 D8n400 F9q000 D902o0 Fa2yo0 D8n400 Fa2yo0 D8n400 F9q000 D902o0 F902o0 Db5uo0 F7k800 Db5uo0 F7x6o0 Dasw00 F7k800 Db5uo0 F7k800 Db5uo0 F7k800 Db5uo0 F7k800 Dbitc0 F5reo0 D1xhuo0 F779c0 Dbitc0 F779c0 Dbitc0 F779c0 Dbitc0 F779c0 Dbitc0 F7k800 Db5uo0 F7k800 Db5uo0 F7k800 Dbitc0 F779c0 Dbitc0 F779c0 Dbitc0 F7x3w0 Dasw00 F7x6o0 Dasw00 F7x6o0 Dasw00 F7x6o0 Db5uo0 F7x6o0 Dasw00 F7x6o0 Dasw00 F7x6o0 Dasw00 F7x6o0 Dasw00 F7x6o0 Db5uo0 F7k800 Db5uo0 F7x6o0 Dasw00 F7x6o0 Dasw00 F7x6o0 Dasw00 F7x6o0 Dasw00 F7x6o0 Dasw00 F8a5c0
Etc/GMT Etc/GMT+0 Etc/GMT-0 Etc/GMT0 Etc/Greenwich GMT GMT+0 GMT-0 GMT0 Greenwich|GMT/0|GMT0|
Etc/GMT+1|-01/-3600|<-01>1|
Etc/GMT+10|-10/-36000|<-10>10|
Etc/GMT+11|-11/-39600|<-11>11|
Etc/GMT+12|-12/-43200|<-12>12|
Etc/GMT+2|-02/-7200|<-02>2|
Etc/GMT+3|-03/-10800|<-03>3|
Etc/GMT+4|-04/-14400|<-04>4|
Etc/GMT+5|-05/-18000|<-05>5|
Etc/GMT+6|-06/-21600|<-06>6|
Etc/GMT+7|-07/-25200|<-07>7|
Etc/GMT+8|-08/-28800|<-08>8|
Etc/GMT+9|-09/-32400|<-09>9|
Etc/GMT-1|+01/3600|<+01>-1|
Etc/GMT-10|+10/36000|<+10>-10|
Etc/GMT-11|+11/39600|<+11>-11|
Etc/GMT-12|+12/43200|<+12>-12|
Etc/GMT-13|+13/46800|<+13>-13|
Etc/GMT-14|+14/50400|<+14>-14|
Etc/GMT-2|+02/7200|<+02>-2|
Etc/GMT-3|+03/10800|<+03>-3|
Etc/GMT-4|+04/14400|<+04>-4|
Etc/GMT-5|+05/18000|<+05>-5|
Etc/GMT-6|+06/21600|<+06>-6|
Etc/GMT-7|+07/25200|<+07>-7|
Etc/GMT-8|+08/28800|<+08>-8|
Etc/GMT-9|+09/32400|<+09>-9|
Etc/UCT Etc/UTC Etc/Universal Etc/Zulu UCT UTC Universal Zulu|UTC/0|UTC0|
Europe/Amsterdam|LMT/1172 AMT/1172 NST/4772 +0120/4800 +0020/1200 CEST/7200 CET/3600|CET-1CEST,M3.5.0,M10.5.0/3|B-1ygf4wk C16g19c0 B7v980 Ca51o0 B7x6o0 Ca2yo0 B9d1c0 C9q000 B902o0 C9q000 B902o0 C9q000 B902o0 C9b6o0 Ba2yo0 Cc51c0 B6l1c0 C902o0 B9q000 Cci000 B682o0 Cbgyo0 B79400 Cbitc0 B779c0 Cbmio0 B7gio0 Cbbeo0 B7eo00 Cbd9c0 B7ctc0 Cbf400 B7ayo0 Cbvs00 B6uao0 Cbko00 B7idc0 Cb9k00 B7gio0 Cbbeo0 B7eo00 Cbf400 B7ayo0 Cbtxc0 D21uc0 E4uaz8 Dbitc0 E779c0 Dbko00 E7idc0 Fbd3s0 G1aarpc F7k800 G9q000 F9d1c0 G9d1c0 F9d1c0 G8l9c0 Fggp1c0 G902o0 F9q000 G9d1c0 F9d1c0 G9d1c0 F9q000 G902o0 F9d1c0 G9d1c0 F9d1c0 G9d1c0 F9d1c0 G9d1c0 F9d1c0 G9q000 F9d1c0 G9d1c0 F9d1c0 G9d1c0 F9d1c0 G9d1c0 F9d1c0 G9d1c0 F9d1c0 G9d1c0 F9d1c0 G9q000 F9d1c0 G9d1c0 F9d1c0 G9d1c0 F9d1c0 G9d1c0 F9d1c0 G9d1c0 F9d1c0 G9d1c0 F9q000
Europe/Andorra|LMT/364 WET/0 CET/3600 CEST/7200|CET-1CEST,M3.5.0,M10.5.0/3|B-100edm4 Cnvgqy4 Dk3ctg0 C9d1c0 D9d1c0 C9d1c0 D9d1c0 C9d1c0 D9d1c0 C9d1c0 D9d1c0 C9d1c0 D9d1c0 C9q000 D9d1c0 C9d1c0 D9d1c0 C9d1c0 D9d1c0 C9d1c0 D9d1c0 C9d1c0 D9d1c0 C9d1c0 D9q000
Europe/Astrakhan|LMT/11532 +03/10800 +04/14400 +05/18000|<+04>-4|B-nu2zkc C37bv8c Dqi27w0 C9et80 D9d440 C9et80 D9d440 C9et80 D9eys0 C9d6w0 D9d1c0 C9d1c0 D9d1c0 C9d1c0 D9d1c0 C9d1c0 D9d1c0 C9d1c0 Biq5g0 C9d1c0 B9q000 C9d1c0 Bs3400 C9d1c0 B9d1c0 C9d1c0 B9d1c0 C9d1c0 B9d1c0 C9q000 Basw00 C7x6o0 Basw00 C7x6o0 Basw00 C7x6o0 Bb5uo0 C7k800 Bb5uo0 C7k800 Bb5uo0 C7x6o0 Basw00 C7x6o0 Basw00 C7x6o0 Bb5uo0 C7k800 Bb5uo0 C7k800 Bb5uo0 C7k800 Bb5uo0 C7x6o0 Basw00 C7x6o0 Basw00 C7x6o0 Bb5uo0 C7k800 B1vbzw0 Cqnc40
Europe/Athens|LMT/5692 AMT/5692 EET/7200 EEST/10800 CEST/7200 CET/3600|EET-2EEST,M3.5.0/3,M10.5.0/4|B-12rxtq4 Caw2tdo D8bjasg C2vmk0 D4hiw40 E16ik0 Fscog0 E7lx40 F9o2k0 C9eys0 D4atzw0 C6djw0 Dbplus0 Cbq800 D71uw0 C9d1c0 D902o0 C91xc0 D9o5c0 C905g0 D9qgo0 C9akg0 D9iik0 C99980 D9dcg0 C9d1c0 D9d1c0 C9d1c0 D9d1c0 C9d1c0 D9d1c0 C9q000 D9d1c0 C9d1c0 D9d1c0 C9d1c0 D9d1c0 C9d1c0 D9d1c0 C9d1c0 D9d1c0 C9d1c0 D9d1c0 C9q000 D9d1c0 C9d1c0 D9d1c0 C9d1c0 D9d1c0 C9d1c0 D9d1c0 C9d1c0 D9d1c0 C9d1c0 D9q000
Europe/Belfast Europe/London GB GB-Eire|LMT/-75 GMT/0 BST/3600 BDST/7200|GMT0BST,M3.5.0/1,M10.5.0|B-1rprx9x Czqf9hx B6uao0 C9q000 B8c000 C9o5c0 B9ruo0 C9b6o0 B9ew00 C9b6o0 Bauqo0 C88ao0 B9ew00 C8y800 Ba2yo0 Ca2yo0 B7k800 Casw00 B8a5c0 Casw00 B8n400 Ca2yo0 B8n400 C9q000 B902o0 Cafxc0 B8n400 Ca2yo0 B8n400 C9q000 B902o0 Ca2yo0 B8n400 Ca2yo0 B8n400 C9q000 B9d1c0 Ca2yo0 B8n400 C9q000 B902o0 Ca2yo0 B8n400 Ca2yo0 B8n400 C9q000 B902o0 Ca2yo0 Bb5uo0 C51hc0 Dmbmk0 C51hc0 Dc8qo0 C6hc00 Dc8qo0 C6uao0 Dbvs00 C8n400 Da4tc0 C5clc0 B4bms0 C9q000 B902o0 C8a5c0 D1frw0 C64dc0 B4bms0 C6uao0 Bbvs00 C7x6o0 Basw00 C8n400 B9q000 C902o0 B9q000 C9d1c0 B9q000 C902o0 B8n400 C9q000 B902o0 Ca2yo0 B8n400 Cafxc0 B8n400 C9q000 B902o0 Ca2yo0 B8n400 Ca2yo0 B8n400 C9q000 B902o0 C902o0 Bb5uo0 C7k800 Bb5uo0 C7x6o0 Basw00 C7k800 Bb5uo0 C7k800 Bb5uo0 C7k800 Bb5uo0 C7k800 Bbitc0 C5reo0 B1xhuo0 C779c0 Bbitc0 C779c0 Bbitc0 C779c0 Bbitc0 C779c0 Bbitc0 C7k800 Bb5uo0 C7k800 Bb5uo0 C7k800 Bbitc0 C779c0 Bbitc0 C779c0 Bbitc0 C7x3w0 Basw00 C7x6o0 Basw00 C7x6o0 Basw00 C7x6o0 Bb5uo0 C7x6o0 Basw00 C7x6o0 Basw00 C7x6o0 Basw00 C7x6o0 Basw00 C7x6o0 Bb5uo0 C7k800 Bb5uo0 C7x6o0 Basw00 C7x6o0 Basw00 C7x6o0 Basw00 C7x6o0 Basw00 C7x6o0 Basw00 C8a5c0
Europe/Belgrade Europe/Podgorica|LMT/4920 CET/3600 CEST/7200|CET-1CEST,M3.5.0,M10.5.0/3|B-18vsmgo Ctwhnko Bswz00 C7k800 B9q000 C9d1c0 B9d1c0 Cb7pc0 B6qlc0 Cjl1hc0 B9d1c0 C9d1c0 B9q000 C9d1c0 B9d1c0 C9d1c0 B9d1c0 C9d1c0 B9d1c0 C9d1c0 B9d1c0 C9d1c0 B9d1c0 C9d1c0 B9q000 C9d1c0 B9d1c0 C9d1c0 B9d1c0 C9d1c0 B9d1c0 C9d1c0 B9d1c0 C9d1c0 B9d1c0 C9q000
Europe/Berlin|LMT/3208 CET/3600 CEST/7200 CEMT/10800|CET-1CEST,M3.5.0,M10.5.0/3|B-1421154 Cc1n0x4 B7ves0 Ca4yw0 B7x6o0 Casw00 B7x6o0 Cb8qdc0 B1cm000 C7k800 B9q000 C9d1c0 B9d1c0 C9d1c0 D2o7w0 C6bs00 B2txg0 C7k800 B91xc0 C9b9g0 D1sqk0 C2inw0 B51k40 Ca2yo0 B8n400 C9q000 B902o0 Cfx91c0 B902o0 C9d1c0 B9d1c0 C9d1c0 B9d1c0 C9d1c0 B9d1c0 C9d1c0 B9q000 C9d1c0 B9d1c0 C9d1c0 B9d1c0 C9d1c0 B9d1c0 C9d1c0 B9d1c0 C9d1c0 B9d1c0 C9d1c0 B9q000 C9d1c0 B9d1c0 C9d1c0 B9d1c0 C9d1c0 B9d1c0 C9d1c0 B9d1c0 C9d1c0 B9d1c0 C9q000
Europe/Bratislava Europe/Prague|LMT/3464 PMT/3464 CET/3600 CEST/7200 GMT/0|CET-1CEST,M3.5.0,M10.5.0/3|B-1qmkw08 Clsd1c0 Dcttug8 C7ves0 Da4yw0 C7x6o0 Dasw00 C7x6o0 Db8qdc0 C1cm000 D7k800 C9q000 D9d1c0 C9d1c0 D9d1c0 C9d1c0 Db5uo0 C7vc00 E2vs40 C4bk00 D2vmk0 C8n400 Da2yo0 C8n400 D9o5c0 C91xc0 Dfe6000 C9d1c0 D9q000 C902o0 D9d1c0 C9d1c0 D9d1c0 C9d1c0 D9d1c0 C9d1c0 D9d1c0 C9q000 D9d1c0 C9d1c0 D9d1c0 C9d1c0 D9d1c0 C9d1c0 D9d1c0 C9d1c0 D9d1c0 C9d1c0 D9d1c0 C9q000 D9d1c0 C9d1c0 D9d1c0 C9d1c0 D9d1c0 C9d1c0 D9d1c0 C9d1c0 D9d1c0 C9d1c0 D9q000
Europe/Brussels|LMT/1050 BMT/1050 WET/0 CET/3600 CEST/7200 WEST/3600|CET-1CEST,M3.5.0,M10.5.0/3|B-1ayy3h6 C6forh6 Dbr3hc0 Errx80 D7vc00 Ea4yw0 D7x6o0 Easw00 D7x6o0 C2wh40 F5omo0 Cb5uo0 F6uao0 Ccyo00 F7ayo0 Cbko00 F7rmo0 Ca2yo0 Fa2yo0 C8n400 F902o0 C9q000 F9d1c0 C9d1c0 Fa2yo0 C8n400 F9q000 C902o0 Fa2yo0 C90b00 Fa2yo0 C8n400 F9q000 C902o0 Fa2yo0 C8n400 F9d1c0 C9d1c0 F902o0 Ca2yo0 F9d1c0 C9d1c0 F902o0 C9q000 Fa2yo0 C8n400 F9d1c0 C9d1c0 F902o0 C9q000 Fa2yo0 Cb5uo0 F51hc0 E4deo0 D1a36k0 E7k800 D9q000 E9d1c0 D8l9c0 Ea4tc0 D8l9c0 Eclpc0 D79400 Efwu800 D902o0 E9q000 D9d1c0 E9d1c0 D9d1c0 E9q000 D902o0 E9d1c0 D9d1c0 E9d1c0 D9d1c0 E9d1c0 D9d1c0 E9d1c0 D9q000 E9d1c0 D9d1c0 E9d1c0 D9d1c0 E9d1c0 D9d1c0 E9d1c0 D9d1c0 E9d1c0 D9d1c0 E9d1c0 D9q000 E9d1c0 D9d1c0 E9d1c0 D9d1c0 E9d1c0 D9d1c0 E9d1c0 D9d1c0 E9d1c0 D9d1c0 E9q000
Europe/Bucharest|LMT/6264 BMT/6264 EET/7200 EEST/10800|EET-2EEST,M3.5.0/3,M10.5.0/4|B-14u7wu0 Ckrxxc0 Dfj8m0 C6w5c0 D9d1c0 C9d1c0 D9q000 C9d1c0 D9d1c0 C9d1c0 D9d1c0 C9d1c0 D9d1c0 C9d1c0 D9d1c0 C9d1c0 D9d1c0 C9d1c0 Dkp0dc0 C6h980 D9q000 C905g0 D9d6w0 C9d1c0 D9d1c0 C9d1c0 D9d1c0 C9d1c0 D9d1c0 C9q000 D9d1c0 C9d1c0 D9d1c0 C9d1c0 D9d1c0 C9d1c0 D9d1c0 C9d1c0 D9d1c0 C9d1c0 D9d1c0 C9q000 D9cvs0 C9d1c0 D9d1c0 C9d1c0 D9d1c0 C9d1c0 D9d1c0 C9cyk0 D9d440 C9cyk0 D9q2s0 Cast80 D7xhs0
Europe/Budapest|LMT/4580 CET/3600 CEST/7200|CET-1CEST,M3.5.0,M10.5.0/3|B-15bee78 Cdb0dz8 B7ves0 Ca4yw0 B7x6o0 Casw00 B7x6o0 Cauqo0 B7vc00 Cafxc0 B8n400 Caq1x00 Bthcc0 C7k800 B9q000 C9d1c0 B9d1c0 Cawd00 B9eys0 C7pxk0 B9rrw0 C9b9g0 B9d1c0 C9d1c0 B9d1c0 C9q000 B902o0 C2f4vs0 B6u7w0 Cbw0c0 B6uao0 Cclpc0 B64dc0 Cclpc0 B64dc0 Cbr3bs0 B902o0 C9d1c0 B9d1c0 C9d1c0 B9d1c0 C9d1c0 B9d1c0 C9d6w0 B9q000 C9d1c0 B9d1c0 C9d1c0 B9d1c0 C9d1c0 B9d1c0 C9d1c0 B9d1c0 C9d1c0 B9d1c0 C9d1c0 B9q000 C9d1c0 B9d1c0 C9d1c0 B9d1c0 C9d1c0 B9d1c0 C9d1c0 B9d1c0 C9d1c0 B9d1c0 C9q000
Europe/Busingen Europe/Zurich|LMT/2048 BMT/1786 CET/3600 CEST/7200|CET-1CEST,M3.5.0,M10.5.0/3|B-1os49kw Clc05ja Dohmxdm C7x6o0 Dasw00 C7x6o0 Dk2zus0 C9d1c0 D9d1c0 C9d1c0 D9d1c0 C9d1c0 D9d1c0 C9q000 D9d1c0 C9d1c0 D9d1c0 C9d1c0 D9d1c0 C9d1c0 D9d1c0 C9d1c0 D9d1c0 C9d1c0 D9d1c0 C9q000 D9d1c0 C9d1c0 D9d1c0 C9d1c0 D9d1c0 C9d1c0 D9d1c0 C9d1c0 D9d1c0 C9d1c0 D9q000
Europe/Chisinau Europe/Tiraspol|LMT/6920 CMT/6900 BMT/6264 EET/7200 EEST/10800 CEST/7200 CET/3600 MSK/10800 MSD/14400|EET-2EEST,M3.5.0/3,M10.5.0/4|B-1ayy808 Cjw96ok D70f1to Efj8m0 D6w5c0 E9d1c0 D9d1c0 E9q000 D9d1c0 E9d1c0 D9d1c0 E9d1c0 D9d1c0 E9d1c0 D9d1c0 E9d1c0 D9d1c0 E9d1c0 D9d1c0 Egeqo0 Fha580 Goc8g0 F7k800 G9q000 F9d1c0 H7cl00 Ij3pbw0 H9et80 I9d440 H9et80 I9d440 H9et80 I9eys0 H9d6w0 I9d1c0 H9d1c0 I9d1c0 H9d1c0 I9d1c0 H9d1c0 I9d1c0 H9d1c0 I9d1c0 H9d1c0 I9d1c0 E25p80 D7kdk0 E9d1c0 D9d1c0 E9cvs0 D9cyk0 E9d440 D9cyk0 E9d440 D9cyk0 E9d440 D9cyk0 E9q2s0 Dast80 E7xf00 Dasw00 E7x6o0 Dasw00 E7x6o0 Db5uo0 E7k800 Db5uo0 E7k800 Db5uo0 E7x6o0 Dasw00 E7x6o0 Dasw00 E7x6o0 Db5uo0 E7k800 Db5uo0 E7k800 Db5uo0 E7k800 Db5uo0 E7x6o0 Dasw00 E7x6o0 Dasw00 E7x6o0 Db5uo0 E7k800 Db5uo0 E7k800 Db5uo0 E7x6o0 Dasw00 E7x6o0 Dasw00 E7x6o0 Dasw00 E7x6o0 Db5uo0 E7k800 Db5uo0 E7k800 Db5uo0 E7x6o0 Dasw00 E7x6o0 Dasw00 E7x6o0 Db5uo0 E7kas0
Europe/Copenhagen|LMT/3020 CMT/3020 CET/3600 CEST/7200|CET-1CEST,M3.5.0,M10.5.0/3|B-15r1bnw C235k00 Dbo7orw C75bw0 Dcbs2w0 C1aco80 D7k800 C9q000 D9d1c0 C9d1c0 D9d1c0 C6y000 Ddbmo0 C6bs00 Dclpc0 C51hc0 De1k00 C4oio0 Dgiutc0 C902o0 D9d1c0 C9d1c0 D9d1c0 C9d1c0 D9d1c0 C9d1c0 D9d1c0 C9q000 D9d1c0 C9d1c0 D9d1c0 C9d1c0 D9d1c0 C9d1c0 D9d1c0 C9d1c0 D9d1c0 C9d1c0 D9d1c0 C9q000 D9d1c0 C9d1c0 D9d1c0 C9d1c0 D9d1c0 C9d1c0 D9d1c0 C9d1c0 D9d1c0 C9d1c0 D9q000
Europe/Gibraltar|LMT/-1284 GMT/0 BST/3600 BDST/7200 CET/3600 CEST/7200|CET-1CEST,M3.5.0,M10.5.0/3|B-1anxr0c Ciol38c B6uao0 C9q000 B8c000 C9o5c0 B9ruo0 C9b6o0 B9ew00 C9b6o0 Bauqo0 C88ao0 B9ew00 C8y800 Ba2yo0 Ca2yo0 B7k800 Casw00 B8a5c0 Casw00 B8n400 Ca2yo0 B8n400 C9q000 B902o0 Cafxc0 B8n400 Ca2yo0 B8n400 C9q000 B902o0 Ca2yo0 B8n400 Ca2yo0 B8n400 C9q000 B9d1c0 Ca2yo0 B8n400 C9q000 B902o0 Ca2yo0 B8n400 Ca2yo0 B8n400 C9q000 B902o0 Ca2yo0 Bb5uo0 C51hc0 Dmbmk0 C51hc0 Dc8qo0 C6hc00 Dc8qo0 C6uao0 Dbvs00 C8n400 Da4tc0 C5clc0 B4bms0 C9q000 B902o0 C8a5c0 D1frw0 C64dc0 B4bms0 C6uao0 Bbvs00 C7x6o0 Basw00 C8n400 B9q000 C902o0 B9q000 C9d1c0 B9q000 C902o0 B8n400 C9q000 B902o0 Ca2yo0 B8n400 Cafxc0 B8n400 E9q000 Fd0tp80 E9d1c0 F9d1c0 E9d1c0 F9d1c0 E9q000 F9d1c0 E9d1c0 F9d1c0 E9d1c0 F9d1c0 E9d1c0 F9d1c0 E9d1c0 F9d1c0 E9d1c0 F9d1c0 E9q000 F9d1c0 E9d1c0 F9d1c0 E9d1c0 F9d1c0 E9d1c0 F9d1c0 E9d1c0 F9d1c0 E9d1c0 F9q000
Europe/Guernsey|LMT/-609 GMT/0 BST/3600 CEST/7200 CET/3600 BDST/7200|GMT0BST,M3.5.0/1,M10.5.0|B-tiakv3 C1ixx33 B6uao0 C9q000 B8c000 C9o5c0 B9ruo0 C9b6o0 B9ew00 C9b6o0 Bauqo0 C88ao0 B9ew00 C8y800 Ba2yo0 Ca2yo0 B7k800 Casw00 B8a5c0 Casw00 B8n400 Ca2yo0 B8n400 C9q000 B902o0 Cafxc0 B8n400 Ca2yo0 B8n400 C9q000 B902o0 Ca2yo0 B8n400 Ca2yo0 B8n400 C9q000 B9d1c0 Ca2yo0 B8n400 C9q000 B902o0 Ca2yo0 B8n400 Ca2yo0 B8n400 C9q000 B902o0 Ca2yo0 Bb5uo0 C51hc0 D6kt00 E17vs80 D7k800 E9q000 D9d1c0 E9d1c0 D9d1c0 F1ufo0 C3i5o0 B4bms0 C9q000 B902o0 C8a5c0 F1frw0 C64dc0 B4bms0 C6uao0 Bbvs00 C7x6o0 Basw00 C8n400 B9q000 C902o0 B9q000 C9d1c0 B9q000 C902o0 B8n400 C9q000 B902o0 Ca2yo0 B8n400 Cafxc0 B8n400 C9q000 B902o0 Ca2yo0 B8n400 Ca2yo0 B8n400 C9q000 B902o0 C902o0 Bb5uo0 C7k800 Bb5uo0 C7x6o0 Basw00 C7k800 Bb5uo0 C7k800 Bb5uo0 C7k800 Bb5uo0 C7k800 Bbitc0 C5reo0 B1xhuo0 C779c0 Bbitc0 C779c0 Bbitc0 C779c0 Bbitc0 C779c0 Bbitc0 C7k800 Bb5uo0 C7k800 Bb5uo0 C7k800 Bbitc0 C779c0 Bbitc0 C779c0 Bbitc0 C7x3w0 Basw00 C7x6o0 Basw00 C7x6o0 Basw00 C7x6o0 Bb5uo0 C7x6o0 Basw00 C7x6o0 Basw00 C7x6o0 Basw00 C7x6o0 Basw00 C7x6o0 Bb5uo0 C7k800 Bb5uo0 C7x6o0 Basw00 C7x6o0 Basw00 C7x6o0 Basw00 C7x6o0 Basw00 C7x6o0 Basw00 C8a5c0
Europe/Helsinki Europe/Mariehamn|LMT/5989 HMT/5989 EET/7200 EEST/10800|EET-2EEST,M3.5.0/3,M10.5.0/4|B-1bss9yd Cmebs00 Dax3tqd C9gqo0 Dk31s80 C9d1c0 D9d1c0 C9d1c0 D9d440 C9d1c0 D9d1c0 C9q000 D9d1c0 C9d1c0 D9d1c0 C9d1c0 D9d1c0 C9d1c0 D9d1c0 C9d1c0 D9d1c0 C9d1c0 D9d1c0 C9q000 D9d1c0 C9d1c0 D9d1c0 C9d1c0 D9d1c0 C9d1c0 D9d1c0 C9d1c0 D9d1c0 C9d1c0 D9q000
Europe/Isle_of_Man|LMT/-1075 GMT/0 BST/3600 BDST/7200|GMT0BST,M3.5.0/1,M10.5.0|B-19a1gi5 Chaosq5 B6uao0 C9q000 B8c000 C9o5c0 B9ruo0 C9b6o0 B9ew00 C9b6o0 Bauqo0 C88ao0 B9ew00 C8y800 Ba2yo0 Ca2yo0 B7k800 Casw00 B8a5c0 Casw00 B8n400 Ca2yo0 B8n400 C9q000 B902o0 Cafxc0 B8n400 Ca2yo0 B8n400 C9q000 B902o0 Ca2yo0 B8n400 Ca2yo0 B8n400 C9q000 B9d1c0 Ca2yo0 B8n400 C9q000 B902o0 Ca2yo0 B8n400 Ca2yo0 B8n400 C9q000 B902o0 Ca2yo0 Bb5uo0 C51hc0 Dmbmk0 C51hc0 Dc8qo0 C6hc00 Dc8qo0 C6uao0 Dbvs00 C8n400 Da4tc0 C5clc0 B4bms0 C9q000 B902o0 C8a5c0 D1frw0 C64dc0 B4bms0 C6uao0 Bbvs00 C7x6o0 Basw00 C8n400 B9q000 C902o0 B9q000 C9d1c0 B9q000 C902o0 B8n400 C9q000 B902o0 Ca2yo0 B8n400 Cafxc0 B8n400 C9q000 B902o0 Ca2yo0 B8n400 Ca2yo0 B8n400 C9q000 B902o0 C902o0 Bb5uo0 C7k800 Bb5uo0 C7x6o0 Basw00 C7k800 Bb5uo0 C7k800 Bb5uo0 C7k800 Bb5uo0 C7k800 Bbitc0 C5reo0 B1xhuo0 C779c0 Bbitc0 C779c0 Bbitc0 C779c0 Bbitc0 C779c0 Bbitc0 C7k800 Bb5uo0 C7k800 Bb5uo0 C7k800 Bbitc0 C779c0 Bbitc0 C779c0 Bbitc0 C7x3w0 Basw00 C7x6o0 Basw00 C7x6o0 Basw00 C7x6o0 Bb5uo0 C7x6o0 Basw00 C7x6o0 Basw00 C7x6o0 Basw00 C7x6o0 Basw00 C7x6o0 Bb5uo0 C7k800 Bb5uo0 C7x6o0 Basw00 C7x6o0 Basw00 C7x6o0 Basw00 C7x6o0 Basw00 C7x6o0 Basw00 C8a5c0
Europe/Jersey|LMT/-506 GMT/0 BST/3600 CEST/7200 CET/3600 BDST/7200|GMT0BST,M3.5.0/1,M10.5.0|B-11cerk0 C9d23s0 B6uao0 C9q000 B8c000 C9o5c0 B9ruo0 C9b6o0 B9ew00 C9b6o0 Bauqo0 C88ao0 B9ew00 C8y800 Ba2yo0 Ca2yo0 B7k800 Casw00 B8a5c0 Casw00 B8n400 Ca2yo0 B8n400 C9q000 B902o0 Cafxc0 B8n400 Ca2yo0 B8n400 C9q000 B902o0 Ca2yo0 B8n400 Ca2yo0 B8n400 C9q000 B9d1c0 Ca2yo0 B8n400 C9q000 B902o0 Ca2yo0 B8n400 Ca2yo0 B8n400 C9q000 B902o0 Ca2yo0 Bb5uo0 C51hc0 D6kt00 E17vs80 D7k800 E9q000 D9d1c0 E9d1c0 D9d1c0 F1ufo0 C3i5o0 B4bms0 C9q000 B902o0 C8a5c0 F1frw0 C64dc0 B4bms0 C6uao0 Bbvs00 C7x6o0 Basw00 C8n400 B9q000 C902o0 B9q000 C9d1c0 B9q000 C902o0 B8n400 C9q000 B902o0 Ca2yo0 B8n400 Cafxc0 B8n400 C9q000 B902o0 Ca2yo0 B8n400 Ca2yo0 B8n400 C9q000 B902o0 C902o0 Bb5uo0 C7k800 Bb5uo0 C7x6o0 Basw00 C7k800 Bb5uo0 C7k800 Bb5uo0 C7k800 Bb5uo0 C7k800 Bbitc0 C5reo0 B1xhuo0 C779c0 Bbitc0 C779c0 Bbitc0 C779c0 Bbitc0 C779c0 Bbitc0 C7k800 Bb5uo0 C7k800 Bb5uo0 C7k800 Bbitc0 C779c0 Bbitc0 C779c0 Bbitc0 C7x3w0 Basw00 C7x6o0 Basw00 C7x6o0 Basw00 C7x6o0 Bb5uo0 C7x6o0 Basw00 C7x6o0 Basw00 C7x6o0 Basw00 C7x6o0 Basw00 C7x6o0 Bb5uo0 C7k800 Bb5uo0 C7x6o0 Basw00 C7x6o0 Basw00 C7x6o0 Basw00 C7x6o0 Basw00 C7x6o0 Basw00 C8a5c0
Europe/Kaliningrad|LMT/4920 CET/3600 CEST/7200 EET/7200 EEST/10800 MSK/10800 MSD/14400 +03/10800|EET-2|B-14212go Cc1n28o B7ves0 Ca4yw0 B7x6o0 Casw00 B7x6o0 Cb8qdc0 B1cm000 C7k800 B9q000 C9d1c0 B9d1c0 C9d1c0 Del00 Ez6o0 D9kd80 F82tg0 Gi9avw0 F9et80 G9d440 F9et80 G9d440 F9et80 G9eys0 F9d6w0 G9d1c0 F9d1c0 G9d1c0 F9d1c0 G9d1c0 F9d1c0 G9d1c0 F9d1c0 E9d1c0 D9d440 E9d1c0 D9q000 E9d1c0 D9d1c0 E9d1c0 D9d1c0 E9d1c0 D9d1c0 E9d1c0 D9d1c0 E9d1c0 D9d1c0 E9q000 Dasw00 E7x6o0 Dasw00 E7x6o0 Dasw00 E7x6o0 Db5uo0 E7k800 Db5uo0 E7k800 Db5uo0 E7x6o0 Dasw00 E7x6o0 Dasw00 E7x6o0 Db5uo0 E7k800 Db5uo0 E7k800 Db5uo0 E7k800 Db5uo0 E7x6o0 Dasw00 E7x6o0 Dasw00 E7x6o0 Db5uo0 H7k800 D1vbzw0
Europe/Kiev Europe/Kyiv Europe/Uzhgorod Europe/Zaporozhye|LMT/7324 KMT/7324 EET/7200 MSK/10800 CEST/7200 CET/3600 MSD/14400 EEST/10800|EET-2EEST,M3.5.0/3,M10.5.0/4|B-1ayy8bg Cn4x6o0 D37a03g E5vd6k0 Fkzv40 E7k800 F9q000 D1oyg0 Gjipzs0 D9et80 G9d440 D9et80 G9d440 D9et80 G9eys0 D9d6w0 G9d1c0 D9d1c0 G9d1c0 D9d1c0 G9d1c0 D9d1c0 G9d1c0 D9d1c0 G9d1c0 D9d1c0 G9d1c0 H51ek0 Cneqw0 H9d1c0 C9d1c0 H9d1c0 C9d1c0 H9d1c0 C9d1c0 H9d1c0 C9d1c0 H9q000 Casys0
Europe/Kirov|LMT/11928 +03/10800 +04/14400 +05/18000 MSD/14400 MSK/10800 MSK/14400|MSK-3|B-qcx400 C5q5zo0 Dqi27w0 C9et80 D9d440 C9et80 D9d440 C9et80 D9eys0 C9d6w0 D9d1c0 C9d1c0 D9d1c0 C9d1c0 D9d1c0 C9d1c0 D9d1c0 C9d1c0 E9d1c0 F9d440 E9d1c0 F9q000 C9d1c0 Eipzw0 F9d440 E9d1c0 F9d1c0 E9d1c0 F9d1c0 E9d1c0 F9d1c0 E9q000 Fasw00 E7x6o0 Fasw00 E7x6o0 Fasw00 E7x6o0 Fb5uo0 E7k800 Fb5uo0 E7k800 Fb5uo0 E7x6o0 Fasw00 E7x6o0 Fasw00 E7x6o0 Fb5uo0 E7k800 Fb5uo0 E7k800 Fb5uo0 E7k800 Fb5uo0 E7x6o0 Fasw00 E7x6o0 Fasw00 E7x6o0 Fb5uo0 G7k800 F1vbzw0
Europe/Lisbon Portugal|LMT/-2205 WET/0 WEST/3600 WEMT/7200 CET/3600 CEST/7200|WET0WEST,M3.5.0/1,M10.5.0|B-u9rhc0 C2bufw0 B6zxg0 C66800 Bbq580 C71s40 Bbq580 C71s40 Bbq580 C73ms0 Bbq580 C71s40 Bbq580 C1b2g00 B8so00 Cst1c0 B8n400 C9q000 B902o0 Ca2yo0 B902o0 Ca2yo0 B8n400 Cst1c0 B8n400 C9d1c0 B9d1c0 Csg2o0 B9d1c0 C902o0 B9q000 Ca2yo0 B8n400 C9d1c0 B9d1c0 C902o0 B9q000 Ca2yo0 Bb5uo0 C51hc0 Bbmio0 C99c00 B9ew00 C88ao0 D25p80 C5reo0 B3lpg0 C779c0 D1sqk0 C6uao0 B38qs0 C6uao0 D25p80 C6hc00 B38qs0 C6uao0 D25p80 C6hc00 B38qs0 C8a5c0 B9d1c0 C9d9o0 B9d1c0 C9d1c0 B9d1c0 C9d1c0 B9d1c0 C9d1c0 B9d1c0 C9d1c0 B9q000 C9d1c0 B9d1c0 C9d1c0 B9d1c0 C9d1c0 B9d1c0 C9d1c0 B9d1c0 C9d1c0 B9q000 C9d1c0 B9d1c0 C9d1c0 B9d1c0 C9d1c0 B9d1c0 C9d1c0 B9d1c0 C9d1c0 B9d1c0 C9d1c0 B9q000 C9d1c0 B9d1c0 C9d1c0 B9d1c0 C9d1c0 B9d1c0 C9d1c0 E9d1c0 B57ljs0 C9d1c0 B9d1c0 C9q2s0 B9d1c0 C9d1c0 B9d1c0 C9q000 B902o0 C9cyk0 B9d1c0 C9d1c0 B9d1c0 C9d1c0 B9d1c0 C9d1c0 B9q000 C9d1c0 B9d1c0 C9d440 B9d1c0 C9d1c0 B9d1c0 C9d1c0 B9d1c0 C9d1c0 B9d1c0 C9d1c0 B9q000 C9d1c0 B9d1c0 C9d1c0 E9d1c0 F9d1c0 E9d1c0 F9d1c0 E9d1c0 F9d1c0 E9d1c0 C9q000
Europe/Ljubljana|LMT/3484 CET/3600 CEST/7200|CET-1CEST,M3.5.0,M10.5.0/3|B-18vslcs Ctwhmgs Bswz00 C7k800 B9q000 C9d1c0 B9d1c0 C9d1c0 B8l9c0 Cjl1hc0 B9d1c0 C9d1c0 B9q000 C9d1c0 B9d1c0 C9d1c0 B9d1c0 C9d1c0 B9d1c0 C9d1c0 B9d1c0 C9d1c0 B9d1c0 C9d1c0 B9q000 C9d1c0 B9d1c0 C9d1c0 B9d1c0 C9d1c0 B9d1c0 C9d1c0 B9d1c0 C9d1c0 B9d1c0 C9q000
Europe/Luxembourg|LMT/1476 CET/3600 CEST/7200 WET/0 WEST/3600 WEST/7200 WET/3600|CET-1CEST,M3.5.0,M10.5.0/3|B-y89550 C68l290 B75hg0 Cast80 B796s0 Cat1k0 B7x6o0 D3lh40 E4zmo0 Db6300 E6u2c0 Dcytk0 E7at40 Dbktk0 E7rh40 Da31g0 Ea2vw0 D8n9k0 E8zx40 D9q2s0 E9et80 D9b9g0 Ea2vw0 D8n6s0 E9px80 D905g0 Ea2vw0 D905g0 Ea2vw0 D8ncc0 E9q000 D902o0 Ea2yo0 D8n400 E9d1c0 D9d1c0 E902o0 Da2yo0 E9d1c0 D9d1c0 E902o0 D9q000 Ea2yo0 D8n400 E9d1c0 D9d1c0 E902o0 D9q000 Ea2yo0 Db5uo0 E51hc0 F42ao0 G1aeak0 F7k800 G9q000 F9d1c0 B8n400 Ca2yo0 B8l9c0 Cclpc0 B79400 Cfwu800 B902o0 C9q000 B9d1c0 C9d1c0 B9d1c0 C9q000 B902o0 C9d1c0 B9d1c0 C9d1c0 B9d1c0 C9d1c0 B9d1c0 C9d1c0 B9q000 C9d1c0 B9d1c0 C9d1c0 B9d1c0 C9d1c0 B9d1c0 C9d1c0 B9d1c0 C9d1c0 B9d1c0 C9d1c0 B9q000 C9d1c0 B9d1c0 C9d1c0 B9d1c0 C9d1c0 B9d1c0 C9d1c0 B9d1c0 C9d1c0 B9d1c0 C9q000
Europe/Madrid|LMT/-884 WET/0 WEST/3600 WEMT/7200 CET/3600 CEST/7200|CET-1CEST,M3.5.0,M10.5.0/3|B-100edc0 C90sik0 B8yas0 C9cyk0 B9eys0 C2d2vw0 B8sqs0 Cssyk0 B8n6s0 C9px80 B905g0 Ca2yo0 B902o0 Ca2vw0 B8n6s0 C40lh80 B5k2s0 C9cyk0 D1frw0 C7z1c0 Bj1c80 E8a2k0 F13yt80 E685g0 Fbrzw0 E8n6s0 Fa2vw0 E8n6s0 Fa2vw0 E8n6s0 Fa2vw0 E8n6s0 F1clx80 E7x9g0 Fcswik0 E905g0 F9px80 E905g0 F8zzw0 E9d440 F9px80 E905g0 F9q5k0 E9d1c0 F9d1c0 E9d1c0 F9q000 E902o0 F9d1c0 E9d1c0 F9d1c0 E9d1c0 F9d1c0 E9d1c0 F9d1c0 E9q000 F9d1c0 E9d1c0 F9d1c0 E9d1c0 F9d1c0 E9d1c0 F9d1c0 E9d1c0 F9d1c0 E9d1c0 F9d1c0 E9q000 F9d1c0 E9d1c0 F9d1c0 E9d1c0 F9d1c0 E9d1c0 F9d1c0 E9d1c0 F9d1c0 E9d1c0 F9q000
Europe/Malta|LMT/3484 CET/3600 CEST/7200|CET-1CEST,M3.5.0,M10.5.0/3|B-13qyw0s Cbsbx8s B64ak0 C9d440 B9et80 C88dg0 Baunw0 C7ig40 Bb5rw0 C8n6s0 B9cyk0 Caau2s0 B18r9k0 C7k800 B9q000 C9b6o0 B8n400 Ca4tc0 B8j940 C9f1k0 Bafxc0 C89zs0 Bafxc0 C7kdk0 Bb5uo0 C979rs0 B6h980 Ccls40 B64dc0 Cclpc0 B64dc0 Ccyo00 B64dc0 Cclpc0 B64dc0 Cc8qo0 B6hc00 Cclpc0 B6hc00 C9b6o0 B9d1c0 Cahs00 B7m2o0 Cb45k0 B7x3w0 Casys0 B7x3w0 Casys0 B7x3w0 Casys0 B7x3w0 Casys0 B7x3w0 Ca4w40 B8y580 C9q2s0 B9d1c0 C9d1c0 B9d1c0 C9d1c0 B9d1c0 C9d1c0 B9q000 C9d1c0 B9d1c0 C9d1c0 B9d1c0 C9d1c0 B9d1c0 C9d1c0 B9d1c0 C9d1c0 B9d1c0 C9d1c0 B9q000 C9d1c0 B9d1c0 C9d1c0 B9d1c0 C9d1c0 B9d1c0 C9d1c0 B9d1c0 C9d1c0 B9d1c0 C9q000
Europe/Minsk|LMT/6616 MMT/6600 EET/7200 MSK/10800 CEST/7200 CET/3600 MSD/14400 EEST/10800 +03/10800|<+03>-3|B-1ayy7rs Cn4x6og D379zjc E5r1mk0 Fpbf40 E7k800 F9q000 E9d1c0 D4oac0 Gj6dmk0 D9et80 G9d440 D9et80 G9d440 D9et80 G9eys0 D9d6w0 G9d1c0 D9d1c0 G9d1c0 D9d1c0 G9d1c0 D9d1c0 G9d1c0 D9d1c0 G9d1c0 D9d1c0 Hsg2o0 C9d440 H9d1c0 C9d1c0 H9d1c0 C9d1c0 H9d1c0 C9d1c0 H9d1c0 C9d1c0 H9q000 Casw00 H7x6o0 Casw00 H7x6o0 Casw00 H7x6o0 Cb5uo0 H7k800 Cb5uo0 H7k800 Cb5uo0 H7x6o0 Casw00 H7x6o0 Casw00 H7x6o0 Cb5uo0 H7k800 Cb5uo0 H7k800 Cb5uo0 H7k800 Cb5uo0 H7x6o0 Casw00 H7x6o0 Casw00 H7x6o0 Cb5uo0 I7k800
Europe/Monaco|LMT/1772 PMT/561 WET/0 WEST/3600 WEMT/7200 CET/3600 CEST/7200|CET-1CEST,M3.5.0,M10.5.0/3|B-14hnyp8 C9tlnln D2pzpnl C5luo0 D8y800 Ca4tc0 D7vc00 Cauqo0 D7idc0 Cb7pc0 D6sg00 Ccyo00 D7ayo0 Cbko00 D7rmo0 Ca2yo0 Dbvs00 C6uao0 D902o0 C9q000 D9d1c0 C9d1c0 Da2yo0 C8n400 D9q000 C902o0 Da2yo0 C902o0 Da2yo0 C8n400 D9q000 C902o0 Da2yo0 C8n400 D9d1c0 C9d1c0 D902o0 Ca2yo0 D9d1c0 C9d1c0 D902o0 C9q000 Da2yo0 C8n400 D9d1c0 C9d1c0 D902o0 C9q000 Da2yo0 Cb5uo0 D51po0 Emdbo0 D7x3w0 E7x9g0 Dc8w80 E7k800 D9q000 E9d1c0 D9nzs0 E922w0 F8l9c0 Gfxlx80 F9cyk0 G9q5k0 F902o0 G9q000 F9d1c0 G9d1c0 F9d1c0 G9q000 F902o0 G9d1c0 F9d1c0 G9d1c0 F9d1c0 G9d1c0 F9d1c0 G9d1c0 F9q000 G9d1c0 F9d1c0 G9d1c0 F9d1c0 G9d1c0 F9d1c0 G9d1c0 F9d1c0 G9d1c0 F9d1c0 G9d1c0 F9q000 G9d1c0 F9d1c0 G9d1c0 F9d1c0 G9d1c0 F9d1c0 G9d1c0 F9d1c0 G9d1c0 F9d1c0 G9q000
Europe/Moscow W-SU|LMT/9017 MMT/9017 MMT/9079 MST/12679 MDST/16279 MSD/14400 MSK/10800 +05/18000 EET/7200 EEST/10800 MSK/14400|MSK-3|B-1ayy9mh Cj1sw00 Dipzua C97hc0 E7yyk0 D5i840 Ed9p80 F1jwk7 G2cvk0 Fs8o00 H1qvw0 F8fpc0 G1jms0 Iis040 G412as0 Fqi27w0 G9et80 F9d440 G9et80 F9d440 G9et80 F9eys0 G9d6w0 F9d1c0 G9d1c0 F9d1c0 G9d1c0 F9d1c0 G9d1c0 F9d1c0 G9d1c0 F9d1c0 G9d1c0 F9d1c0 G9q000 J9d1c0 I9d440 G5reo0 F3ljw0 G9d1c0 F9d1c0 G9d1c0 F9d1c0 G9d1c0 F9d1c0 G9d1c0 F9q000 Gasw00 F7x6o0 Gasw00 F7x6o0 Gasw00 F7x6o0 Gb5uo0 F7k800 Gb5uo0 F7k800 Gb5uo0 F7x6o0 Gasw00 F7x6o0 Gasw00 F7x6o0 Gb5uo0 F7k800 Gb5uo0 F7k800 Gb5uo0 F7k800 Gb5uo0 F7x6o0 Gasw00 F7x6o0 Gasw00 F7x6o0 Gb5uo0 K7k800 G1vbzw0
Europe/Paris|LMT/561 PMT/561 WET/0 WEST/3600 CEST/7200 CET/3600 WEMT/7200|CET-1CEST,M3.5.0,M10.5.0/3|B-154gb3l Cafgo00 D2qx1nl C5luo0 D8y800 Ca4tc0 D7vc00 Cauqo0 D7idc0 Cb7pc0 D6sg00 Ccyo00 D7ayo0 Cbko00 D7rmo0 Ca2yo0 Dbvs00 C6uao0 D902o0 C9q000 D9d1c0 C9d1c0 Da2yo0 C8n400 D9q000 C902o0 Da2yo0 C902o0 Da2yo0 C8n400 D9q000 C902o0 Da2yo0 C8n400 D9d1c0 C9d1c0 D902o0 Ca2yo0 D9d1c0 C9d1c0 D902o0 C9q000 Da2yo0 C8n400 D9d1c0 C9d1c0 D902o0 C9q000 Da2yo0 Cb5uo0 D51po0 E5p8w0 F18rcc0 E7k800 F9q000 E9d1c0 G7efo0 D29k40 G922w0 F8l9c0 Efxlx80 F9cyk0 E9q5k0 F902o0 E9q000 F9d1c0 E9d1c0 F9d1c0 E9q000 F902o0 E9d1c0 F9d1c0 E9d1c0 F9d1c0 E9d1c0 F9d1c0 E9d1c0 F9q000 E9d1c0 F9d1c0 E9d1c0 F9d1c0 E9d1c0 F9d1c0 E9d1c0 F9d1c0 E9d1c0 F9d1c0 E9d1c0 F9q000 E9d1c0 F9d1c0 E9d1c0 F9d1c0 E9d1c0 F9d1c0 E9d1c0 F9d1c0 E9d1c0 F9d1c0 E9q000
Europe/Riga|LMT/5794 RMT/5794 LST/9394 EET/7200 MSK/10800 CEST/7200 CET/3600 MSD/14400 EEST/10800|EET-2EEST,M3.5.0/3,M10.5.0/4|B-1ayy74y Cjzalk0 B7x6o0 Ca4tc0 B2mg00 D3myns0 E7fhlky Fgz180 Gp5v40 F7k800 G9q000 F9d1c0 G9d1c0 Ek7s0 Hj14ns0 E9et80 H9d440 E9et80 H9d440 E9et80 H9eys0 E9d6w0 H9d1c0 E9d1c0 H9d1c0 E9d1c0 H9d1c0 E9d1c0 H9d1c0 E9d1c0 I9d1c0 D9d440 I9d1c0 D9q000 I9d1c0 D9d1c0 I9d1c0 D9d1c0 I9d1c0 D9d1c0 I9d1c0 D9d1c0 I9d1c0 D9d1c0 I9q000 D9d1c0 I9d440 Dasw00 I7x6o0 Dasw00 I7x6o0 Db5uo0 Iqaao0
Europe/Rome Europe/San_Marino Europe/Vatican|LMT/2996 RMT/2996 CET/3600 CEST/7200|CET-1CEST,M3.5.0,M10.5.0/3|B-1hs7rn8 Ce170v8 Dbsds00 C64ak0 D9d440 C9et80 D88dg0 Caunw0 D7ig40 Cb5rw0 D8n6s0 C9cyk0 Daau2s0 C18r9k0 D7k800 C9q000 D9d1c0 C8l9c0 Da4tc0 C8j940 D9f1k0 Cafxc0 D89zs0 Cafxc0 D7kdk0 Cb5uo0 D979rs0 C6h980 Dcls40 C64dc0 Dclpc0 C64dc0 Dcyo00 C64dc0 Dclpc0 C64dc0 Dc8qo0 C6hc00 Dclpc0 C6hc00 Dclpc0 C64dc0 Dc8qo0 C6hc00 Dclpc0 C64dc0 Dclpc0 C64dc0 Dc8qo0 C6hc00 Dclpc0 C6hc00 Dc8qo0 C6hc00 D9q5k0 C902o0 D9d1c0 C9d1c0 D9d1c0 C9d1c0 D9d1c0 C9d1c0 D9d1c0 C9q000 D9d1c0 C9d1c0 D9d1c0 C9d1c0 D9d1c0 C9d1c0 D9d1c0 C9d1c0 D9d1c0 C9d1c0 D9d1c0 C9q000 D9d1c0 C9d1c0 D9d1c0 C9d1c0 D9d1c0 C9d1c0 D9d1c0 C9d1c0 D9d1c0 C9d1c0 D9q000
Europe/Samara|LMT/12020 +03/10800 +04/14400 +05/18000|<+04>-4|B-qcx400 C5q5zo0 Dqi27w0 C9et80 D9d440 C9et80 D9d440 C9et80 D9eys0 C9d6w0 D9d1c0 C9d1c0 D9d1c0 C9d1c0 D9d1c0 C9d1c0 D9d1c0 C9d1c0 Biq5g0 C9d1c0 B9q000 Cjt1g0 D89zs0 C9d1c0 D9d1c0 C9d1c0 D9d1c0 C9d1c0 D9d1c0 C9d1c0 D9q000 Casw00 D7x6o0 Casw00 D7x6o0 Casw00 D7x6o0 Cb5uo0 D7k800 Cb5uo0 D7k800 Cb5uo0 D7x6o0 Casw00 D7x6o0 Casw00 D7x6o0 Cb5uo0 D7k800 Cb5uo0 D7k800 Cb5uo0 D7k800 Cb5uo0 D7x6o0 Casw00 D7x6o0 Casw00 Bj3440 C7k800
Europe/Sarajevo|LMT/4420 CET/3600 CEST/7200|CET-1CEST,M3.5.0,M10.5.0/3|B-18vsm2s Ctwhn6s Bswz00 C7k800 B9q000 C9d1c0 B9d1c0 C9d1c0 B8l9c0 Cjl1hc0 B9d1c0 C9d1c0 B9q000 C9d1c0 B9d1c0 C9d1c0 B9d1c0 C9d1c0 B9d1c0 C9d1c0 B9d1c0 C9d1c0 B9d1c0 C9d1c0 B9q000 C9d1c0 B9d1c0 C9d1c0 B9d1c0 C9d1c0 B9d1c0 C9d1c0 B9d1c0 C9d1c0 B9d1c0 C9q000
Europe/Saratov|LMT/11058 +03/10800 +04/14400 +05/18000|<+04>-4|B-qcx400 C5q5zo0 Dqi27w0 C9et80 D9d440 C9et80 D9d440 C9et80 D9eys0 C9d6w0 D9d1c0 C9d1c0 D9d1c0 C9d1c0 D9d1c0 C9d1c0 Biq5g0 C9d1c0 B9d1c0 C9d1c0 B9q000 C9d1c0 Bs3400 C9d1c0 B9d1c0 C9d1c0 B9d1c0 C9d1c0 B9d1c0 C9q000 Basw00 C7x6o0 Basw00 C7x6o0 Basw00 C7x6o0 Bb5uo0 C7k800 Bb5uo0 C7k800 Bb5uo0 C7x6o0 Basw00 C7x6o0 Basw00 C7x6o0 Bb5uo0 C7k800 Bb5uo0 C7k800 Bb5uo0 C7k800 Bb5uo0 C7x6o0 Basw00 C7x6o0 Basw00 C7x6o0 Bb5uo0 C7k800 B1vbzw0 C13m040
Europe/Simferopol|LMT/8184 SMT/8160 EET/7200 MSK/10800 CEST/7200 CET/3600 MSD/14400 EEST/10800 MSK/14400|MSK-3|B-1ayy8zc Cn4x6oo D37a0qo E5xiyk0 Fiu340 E7k800 F9q000 E9d1c0 Diac0 Gjajmk0 D9et80 G9d440 D9et80 G9d440 D9et80 G9eys0 D9d6w0 G9d1c0 D9d1c0 G9d1c0 D9d1c0 G9d1c0 D9d1c0 G9d1c0 D9d1c0 G9d1c0 D9d1c0 Ceeio0 Hwrpg0 C9d1c0 H9d1c0 C9d1c0 H9d1c0 G1sl00 D7kdk0 G9d1c0 D9d1c0 G9pug0 Dat4c0 H7x9g0 Casw00 H7x6o0 Casw00 H7x6o0 Cb5uo0 H7k800 Cb5uo0 H7k800 Cb5uo0 H7x6o0 Casw00 H7x6o0 Casw00 H7x6o0 Cb5uo0 H7k800 Cb5uo0 H7k800 Cb5uo0 H7k800 Cb5uo0 H7x6o0 Casw00 H7x6o0 Casw00 H7x6o0 Cb5uo0 H7k800 Cb5uo0 H7k800 Cb5uo0 H7x6o0 Casw00 I7x3w0 Dasqg0
Europe/Skopje|LMT/5144 CET/3600 CEST/7200|CET-1CEST,M3.5.0,M10.5.0/3|B-18vsmmw Ctwhnqw Bswz00 C7k800 B9q000 C9d1c0 B9d1c0 C9d1c0 B8l9c0 Cjl1hc0 B9d1c0 C9d1c0 B9q000 C9d1c0 B9d1c0 C9d1c0 B9d1c0 C9d1c0 B9d1c0 C9d1c0 B9d1c0 C9d1c0 B9d1c0 C9d1c0 B9q000 C9d1c0 B9d1c0 C9d1c0 B9d1c0 C9d1c0 B9d1c0 C9d1c0 B9d1c0 C9d1c0 B9d1c0 C9q000
Europe/Sofia|LMT/5596 IMT/7016 EET/7200 CET/3600 CEST/7200 EEST/10800|EET-2EEST,M3.5.0/3,M10.5.0/4|B-1ayy6zg C7s708k Dp0d6uw E7k800 D9q000 E9d1c0 D9d1c0 C9d440 Fhqq240 C9eys0 F9o2k0 C92040 F9o2k0 C90880 F9pug0 C90b00 F9d1c0 C9d1c0 F9d1c0 C9q000 F9d1c0 C9d1c0 F9d1c0 C9d1c0 F9d1c0 C9d1c0 F9d1c0 C9d1c0 F9d1c0 C9d1c0 F9d1c0 C9q000 F9cvs0 C9cyk0 F9d440 C9cyk0 F9d440 C9cyk0 F9d440 C9cyk0 F9d440 C9cyk0 F9q2s0 Cast80 F7xhs0
Europe/Stockholm|LMT/4332 SET/3614 CET/3600 CEST/7200|CET-1CEST,M3.5.0,M10.5.0/3|B-1bhq3cc Cayjpvy D8jiake C75hg0 Dx5bew0 C902o0 D9d1c0 C9d1c0 D9d1c0 C9d1c0 D9d1c0 C9d1c0 D9d1c0 C9q000 D9d1c0 C9d1c0 D9d1c0 C9d1c0 D9d1c0 C9d1c0 D9d1c0 C9d1c0 D9d1c0 C9d1c0 D9d1c0 C9q000 D9d1c0 C9d1c0 D9d1c0 C9d1c0 D9d1c0 C9d1c0 D9d1c0 C9d1c0 D9d1c0 C9d1c0 D9q000
Europe/Tallinn|LMT/5940 TMT/5940 CET/3600 CEST/7200 EET/7200 MSK/10800 MSD/14400 EEST/10800|EET-2EEST,M3.5.0/3,M10.5.0/4|B-1ayy790 Cjvj9c0 D3re10 C7x6o0 Bet6g0 Eygov0 Fa1zgd0 Dktx80 Cl94g0 D7k800 C9q000 D9d1c0 F8uac0 Gj27mk0 F9et80 G9d440 F9et80 G9d440 F9et80 G9eys0 F9d6w0 G9d1c0 F9d1c0 G9d1c0 F9d1c0 G9d1c0 F9d1c0 G9d1c0 F9d1c0 H9d1c0 E9d440 H9d1c0 E9q000 H9d1c0 E9d1c0 H9d1c0 E9d1c0 H9d1c0 E9d1c0 H9d1c0 E9d1c0 H9d1c0 E9d1c0 H9q000 Easw00 H7x6o0 Easw00 H7x6o0 Easys0 H7x6o0 Eb5uo0 H19dc00
Europe/Tirane|LMT/4760 CET/3600 CEST/7200|CET-1CEST,M3.5.0,M10.5.0/3|B-t85vo8 Cdt2gw8 B18pew0 C7k800 Bm800 Cg7ot40 B7rjw0 Cautg0 B7x3w0 Cayis0 B7x3w0 Cb5xg0 B7k580 Cb42s0 B7lzw0 Cb42s0 B7lzw0 Cb42s0 B7x3w0 Cahus0 B7x3w0 Cb5xg0 B7x3w0 Ca4w40 B8jbw0 C9eys0 B9d6w0 C9d1c0 B9d1c0 C9d1c0 B9d1c0 C9d1c0 B9d1c0 C9d1c0 B9d1c0 C9d1c0 B9d1c0 C9d1c0 B9q000 C9d1c0 B9d1c0 C9d1c0 B9d1c0 C9d1c0 B9d1c0 C9d1c0 B9d1c0 C9d1c0 B9d1c0 C9q000
Europe/Ulyanovsk|LMT/11616 +03/10800 +04/14400 +05/18000 +02/7200|<+04>-4|B-qcx400 C5q5zo0 Dqi27w0 C9et80 D9d440 C9et80 D9d440 C9et80 D9eys0 C9d6w0 D9d1c0 C9d1c0 D9d1c0 C9d1c0 D9d1c0 C9d1c0 D9d1c0 C9d1c0 Biq5g0 C9d1c0 B9q000 Eiq5g0 B5reo0 C3ljw0 B9d1c0 C9d1c0 B9d1c0 C9d1c0 B9d1c0 C9d1c0 B9d1c0 C9q000 Basw00 C7x6o0 Basw00 C7x6o0 Basw00 C7x6o0 Bb5uo0 C7k800 Bb5uo0 C7k800 Bb5uo0 C7x6o0 Basw00 C7x6o0 Basw00 C7x6o0 Bb5uo0 C7k800 Bb5uo0 C7k800 Bb5uo0 C7k800 Bb5uo0 C7x6o0 Basw00 C7x6o0 Basw00 C7x6o0 Bb5uo0 C7k800 B1vbzw0 Cqnc40
Europe/Vaduz|LMT/2284 CET/3600 CEST/7200|CET-1CEST,M3.5.0,M10.5.0/3|B-13g44fg Cohmxrg B7x6o0 Casw00 B7x6o0 Ck2zus0 B9d1c0 C9d1c0 B9d1c0 C9d1c0 B9d1c0 C9d1c0 B9q000 C9d1c0 B9d1c0 C9d1c0 B9d1c0 C9d1c0 B9d1c0 C9d1c0 B9d1c0 C9d1c0 B9d1c0 C9d1c0 B9q000 C9d1c0 B9d1c0 C9d1c0 B9d1c0 C9d1c0 B9d1c0 C9d1c0 B9d1c0 C9d1c0 B9d1c0 C9q000
Europe/Vienna|LMT/3921 CET/3600 CEST/7200|CET-1CEST,M3.5.0,M10.5.0/3|B-14211ox Cc1n1gx B7ves0 Ca4yw0 B7x6o0 Casw00 B7x6o0 Ct6000 B8a5c0 Ca7a800 B1cm000 C7k800 B9q000 C9d1c0 B9d1c0 C9d1c0 Biio0 Civmo0 B91xc0 C9b6o0 B9d1c0 Ca2yo0 B8n400 Cgfyyg0 B8zzw0 C9d9o0 B9d1c0 C9d1c0 B9d1c0 C9d1c0 B9d1c0 C9d1c0 B9q000 C9d1c0 B9d1c0 C9d1c0 B9d1c0 C9d1c0 B9d1c0 C9d1c0 B9d1c0 C9d1c0 B9d1c0 C9d1c0 B9q000 C9d1c0 B9d1c0 C9d1c0 B9d1c0 C9d1c0 B9d1c0 C9d1c0 B9d1c0 C9d1c0 B9d1c0 C9q000
Europe/Vilnius|LMT/6076 WMT/5040 KMT/5736 CET/3600 EET/7200 MSK/10800 CEST/7200 MSD/14400 EEST/10800|EET-2EEST,M3.5.0/3,M10.5.0/4|B-1ayy7cs Cjb5y4s D1g224o Ee75nc D4kqk0 Facbs40 Ggpp40 Dpits0 G7k800 D9q000 G9d1c0 F65zo0 Hj4vx80 F9et80 H9d440 F9et80 H9d440 F9et80 H9eys0 F9d6w0 H9d1c0 F9d1c0 H9d1c0 F9d1c0 H9d1c0 F9d1c0 H9d1c0 F9d1c0 I9d1c0 E9d440 I9d1c0 E9q000 I9d1c0 E9d1c0 I9d1c0 E9d1c0 I9d1c0 E9d1c0 I9d1c0 E9d1c0 I9d1c0 E9d1c0 I9q000 Easw00 I7x6o0 Easw00 G7x9g0 Dasw00 G7x6o0 Eb5uo0 I1s3eo0
Europe/Volgograd|LMT/10660 +03/10800 +04/14400 +05/18000 MSD/14400 MSK/10800 MSK/14400|MSK-3|B-q3cw84 C5glrw4 Dqi27w0 C9et80 D9d440 C9et80 D9d440 C9et80 D9eys0 C9d6w0 D9d1c0 C9d1c0 D9d1c0 C9d1c0 D9d1c0 C9d1c0 E9d1c0 F9d440 E9d1c0 F9d1c0 E9d1c0 F9q000 C9d1c0 Eipzw0 F9d440 E9d1c0 F9d1c0 E9d1c0 F9d1c0 E9d1c0 F9d1c0 E9q000 Fasw00 E7x6o0 Fasw00 E7x6o0 Fasw00 E7x6o0 Fb5uo0 E7k800 Fb5uo0 E7k800 Fb5uo0 E7x6o0 Fasw00 E7x6o0 Fasw00 E7x6o0 Fb5uo0 E7k800 Fb5uo0 E7k800 Fb5uo0 E7k800 Fb5uo0 E7x6o0 Fasw00 E7x6o0 Fasw00 E7x6o0 Fb5uo0 G7k800 F1vbzw0 C239c40 F14oqk0
Europe/Warsaw Poland|LMT/5040 WMT/5040 CET/3600 CEST/7200 EET/7200 EEST/10800|CET-1CEST,M3.5.0,M10.5.0/3|B-1ayy6k0 Ciko800 Ddvyc0 C7ves0 Da4yw0 C7x6o0 Dasw00 E7x6o0 Faunw0 E7x6o0 C1evbs0 D9fcwc0 C18cao0 D7k800 C9q000 D9d1c0 C9gnw0 Dan980 C9kd80 D8fs40 C922w0 Dar1c0 C7x6o0 Da2yo0 C8n400 D9q000 C902o0 D4013w0 C64dc0 D9d1c0 C9d1c0 Dclpc0 C6hc00 D9d1c0 C9d1c0 Dc8qo0 C6hc00 Dc8qo0 C6hc00 Dc8qo0 C6hc00 Dclpc0 C64dc0 D6j4tc0 C902o0 D9q000 C9d1c0 D9d1c0 C9d1c0 D9q000 C902o0 D9d1c0 C9d1c0 D9d1c0 C9d1c0 D9d1c0 C9d1c0 D9d1c0 C9q000 D9d1c0 C9d1c0 D9d1c0 C9d1c0 D9d1c0 C9d1c0 D9d440 C9d1c0 D9d1c0 C9d1c0 D9d1c0 C9q000 D9d1c0 C9d1c0 D9d1c0 C9d1c0 D9d1c0 C9d1c0 D9d1c0 C9d1c0 D9d1c0 C9d1c0 D9q000
Europe/Zagreb|LMT/3832 CET/3600 CEST/7200|CET-1CEST,M3.5.0,M10.5.0/3|B-18vslmg Ctwhmqg Bswz00 C7k800 B9q000 C9d1c0 B9d1c0 C9d1c0 B8l9c0 Cjl1hc0 B9d1c0 C9d1c0 B9q000 C9d1c0 B9d1c0 C9d1c0 B9d1c0 C9d1c0 B9d1c0 C9d1c0 B9d1c0 C9d1c0 B9d1c0 C9d1c0 B9q000 C9d1c0 B9d1c0 C9d1c0 B9d1c0 C9d1c0 B9d1c0 C9d1c0 B9d1c0 C9d1c0 B9d1c0 C9q000
Factory|-00/0|<-00>0|
HST|HST/-36000|HST10|
Indian/Antananarivo|LMT/11404 EAT/10800 EAST/14400|EAT-3|B-uj8gss Cm9lccs B4oio0
Indian/Chagos|LMT/17380 +05/18000 +06/21600|<+06>-6|B-wvpc2s C1ag64us
Indian/Christmas|LMT/25372 +07/25200|<+07>-7|B-133iwws
Indian/Cocos|LMT/23260 +0630/23400|<+0630>-6:30|B-10j6sm4
Indian/Comoro|LMT/10384 EAT/10800|EAT-3|B-uj8g0g
Indian/Kerguelen|-00/0 +05/18000|<+05>-5|B-afrs00
Indian/Mahe|LMT/13308 +04/14400|<+04>-4|B-wvp8xo
Indian/Maldives|LMT/17640 MMT/17640 +05/18000|<+05>-5|B-1ayyga0 C15r19c0
Indian/Mauritius|LMT/13800 +04/14400 +05/18000|<+04>-4|B-wvp9bc C13jnu7c B8bx80 Cdd0wc0 B7x3w0
Indian/Mayotte|LMT/10856 EAT/10800|EAT-3|B-uj8gdk
Indian/Reunion|LMT/13312 +04/14400|<+04>-4|B-uks29s
Kwajalein Pacific/Kwajalein|LMT/40160 +11/39600 +10/36000 +09/32400 -12/-43200 +12/43200|<+12>-12|B-100f8bk Cise0fk D27sas0 B1hjus0 Eddxug0 Fcgv6k0
MET|MET/3600 MEST/7200|MET-1MEST,M3.5.0,M10.5.0/3|B-s0e080 A7ves0 Ba4yw0 A7x6o0 Basw00 A7x6o0 Bb8qdc0 A1cm000 B7k800 A9q000 B9d1c0 A9d1c0 B9d1c0 A8l9c0 Bggp1c0 A902o0 B9q000 A9d1c0 B9d1c0 A9d1c0 B9q000 A902o0 B9d1c0 A9d1c0 B9d1c0 A9d1c0 B9d1c0 A9d1c0 B9d1c0 A9q000 B9d1c0 A9d1c0 B9d1c0 A9d1c0 B9d1c0 A9d1c0 B9d1c0 A9d1c0 B9d1c0 A9d1c0 B9d1c0 A9q000 B9d1c0 A9d1c0 B9d1c0 A9d1c0 B9d1c0 A9d1c0 B9d1c0 A9d1c0 B9d1c0 A9d1c0 B9q000
MST|MST/-25200|MST7|
MST7MDT|MST/-25200 MDT/-21600 MWT/-21600 MPT/-21600|MST7MDT,M3.2.0,M11.1.0|B-r0epo0 Aast80 B7x9g0 Aast80 Cbmtus0 D1tz5k0 A2dvo0 Bb9gdg0 A9cyk0 B9d440 A9cyk0 B9d440 A9cyk0 B9d440 A9cyk0 B9d440 A9px80 B9d440 A9cyk0 B9d440 A9cyk0 B3lpg0 Af4d80 B64g40 Aclmk0 B9d440 A9px80 B905g0 A9px80 B9d440 A9cyk0 B9d440 A9cyk0 B9d440 A9cyk0 B9d440 A9cyk0 B9d440 A9px80 B905g0 A9px80 B9d440 A9cyk0 B9d440 A9cyk0 B9d440 A9cyk0 B8a840 Aafuk0 B8a840 Aast80 B7x9g0 Aast80 B7x9g0 Aast80 B8a840 Aafuk0 B8a840 Aafuk0 B8a840 Aast80 B7x9g0 Aast80 B7x9g0 Aast80 B8a840 Aafuk0 B8a840 Aafuk0 B8a840 Aafuk0 B8a840 Aast80 B7x9g0 Aast80 B7x9g0 Aast80 B8a840 Aafuk0 B8a840 Aafuk0 B8a840 Aast80 B7x9g0 Aast80 B7x9g0 Aast80 B6udg0
NZ-CHAT Pacific/Chatham|LMT/44028 +1215/44100 +1245/45900 +1345/49500|<+1245>-12:45<+1345>,M9.5.0/2:45,M4.1.0/3:45|B-1gsp0n0 C149qqm0 Df1tq90 C5reo0 Dclpc0 C6uao0 Dc8qo0 C6hc00 Dc8qo0 C6hc00 Dc8qo0 C6hc00 Dc8qo0 C6hc00 Dc8qo0 C6hc00 Dc8qo0 C6uao0 Dc8qo0 C6hc00 Dc8qo0 C6hc00 Dc8qo0 C6hc00 Dc8qo0 C6hc00 Dc8qo0 C6hc00 Dc8qo0 C6uao0 Dc8qo0 C6hc00 Db5uo0 C8a5c0 Dafxc0 C8a5c0 Dafxc0 C8a5c0 Dafxc0 C8n400 Da2yo0 C8n400 Da2yo0 C8n400 Da2yo0 C8n400 Dafxc0 C8a5c0 Dafxc0 C8a5c0 Dafxc0 C8n400 Da2yo0 C8n400 Da2yo0 C8n400 Dafxc0 C8a5c0 Dafxc0 C8a5c0 Dafxc0 C8n400 Da2yo0 C8n400 Da2yo0 C8n400 Da2yo0 C8n400 Da2yo0
PST8PDT|PST/-28800 PDT/-25200 PWT/-25200 PPT/-25200|PST8PDT,M3.2.0,M11.1.0|B-r0emw0 Aast80 B7x9g0 Aast80 Cbmtus0 D1tz2s0 A2dyg0 Bb9gdg0 A9cyk0 B9d440 A9cyk0 B9d440 A9cyk0 B9d440 A9cyk0 B9d440 A9px80 B9d440 A9cyk0 B9d440 A9cyk0 B3lpg0 Af4d80 B64g40 Aclmk0 B9d440 A9px80 B905g0 A9px80 B9d440 A9cyk0 B9d440 A9cyk0 B9d440 A9cyk0 B9d440 A9cyk0 B9d440 A9px80 B905g0 A9px80 B9d440 A9cyk0 B9d440 A9cyk0 B9d440 A9cyk0 B8a840 Aafuk0 B8a840 Aast80 B7x9g0 Aast80 B7x9g0 Aast80 B8a840 Aafuk0 B8a840 Aafuk0 B8a840 Aast80 B7x9g0 Aast80 B7x9g0 Aast80 B8a840 Aafuk0 B8a840 Aafuk0 B8a840 Aafuk0 B8a840 Aast80 B7x9g0 Aast80 B7x9g0 Aast80 B8a840 Aafuk0 B8a840 Aafuk0 B8a840 Aast80 B7x9g0 Aast80 B7x9g0 Aast80 B6udg0
Pacific/Apia|LMT/45184 LMT/-41216 -1130/-41400 -11/-39600 -10/-36000 +14/50400 +13/46800|<+13>-13|B-14fxxj4 C9nfeo0 Dkcrmt4 Evp3la0 D9odo0 E902o0 F4zbk0 G4qog0 F9d1c0 G9q000 F902o0 G9q000 F902o0 G9q000 F902o0 G9q000 F902o0 G9q000 F902o0 G9q000 F9d1c0 G9q000 F902o0 G9q000 F902o0 G9q000
Pacific/Bougainville|LMT/37336 PMMT/35312 +10/36000 +09/32400 +11/39600|<+11>-11|B-1ayyvh4 C7tuc88 Dosc24w C1n05g0 E1071c40
Pacific/Chuuk Pacific/Yap|LMT/-49972 LMT/36428 +10/36000 +09/32400|<+10>-10|B-1t8j2rw Ct83xc0 D76a5nw C29hes0 Dbkenw0 C29fk40
Pacific/Efate|LMT/40396 +11/39600 +12/43200|<+11>-11|B-u964i4 Cwbu364 B51hc0 C4y8qs0 B9cyk0 C9d440 B9cyk0 C9q2s0 B8zzw0 C9q2s0 B9cyk0 C9d440 B9cyk0 C9d440 B9cyk0 C9d440 B9cyk0 C9d440 B9cyk0 C9q2s0 B64ak0 Ce1ms0 B4ofw0
Pacific/Enderbury Pacific/Kanton|-00/0 -12/-43200 -11/-39600 +13/46800|<+13>-13|B-gvk800 Clypqo0 D7yiqk0
Pacific/Fakaofo|LMT/-41096 -11/-39600 +13/46800|<+13>-13|B-100dhmg C1lxe1ig
Pacific/Fiji|LMT/42944 +12/43200 +13/46800|<+12>-12|B-sa2x4w C17bs00w B64dc0 Ccyo00 B5reo0 C53a5c0 B64dc0 Casw00 B6uao0 Cbvs00 B4oio0 Ce1k00 B4oio0 Ceeio0 B4bh80 Cerk40 B3ylc0 Cerhc0 B3ylc0 Cf4g00 B3lmo0 Cf4g00 B3lmo0 Cf4g00 B3lmo0 Cfheo0 B38o00 Chn6o0 B1fuo0
Pacific/Funafuti|LMT/43012 +12/43200|<+12>-12|B-100fais
Pacific/Galapagos|LMT/-21504 -05/-18000 -06/-21600|<-06>6|B-kcr62o Cspdryo B3lsas0 C3jp80
Pacific/Gambier|LMT/-32388 -09/-32400|<-09>9|B-tvndoc
Pacific/Guadalcanal Pacific/Ponape|LMT/38388 +11/39600|<+11>-11|B-tvowac
Pacific/Guam|LMT/-51660 LMT/34740 GST/36000 +09/32400 GDT/39600 ChST/36000|ChST-10|B-1t8j1h0 Ct83xc0 Dld6pp0 C1dl9g0 E7s1k40 Ctxp80 E3frms0 Cqdrpo E7kgac C3ljw0 Ec8tg0 C6u7w0 Ebvus0 C6u7w0 E16uo40 C3ljw0 E16aas0 C4ivxo Ecls2c C6h980 Fc65zw0
Pacific/Honolulu Pacific/Johnston US/Hawaii|LMT/-37886 HST/-37800 HDT/-34200 HWT/-34200 HPT/-34200 HST/-36000|HST10|B-12lnw3m Cjgnatm B13l00 D4jvb00 E1tyvu0 B2e5e0 Fvotg0
Pacific/Kiritimati|LMT/-37760 -1040/-38400 -10/-36000 +14/50400|<+14>-14|B-100dk74 C153iz5s D7yirhc
Pacific/Kosrae|LMT/-47284 LMT/39116 +11/39600 +09/32400 +10/36000 +12/43200|<+11>-11|B-1t8j4uk Ct83xc0 D76a4yk C29hhk0 E9cmd40 D27sas0 C29fk40 Fcm2540 Cf9l3w0
Pacific/Majuro|LMT/41088 +11/39600 +09/32400 +10/36000 +12/43200|<+12>-12|B-100f91c C76a6hc B29hhk0 D9cmd40 C27sas0 B1h6w40 Edeat40
Pacific/Marquesas|LMT/-33480 -0930/-34200|<-0930>9:30|B-tvncu0
Pacific/Midway|LMT/-42568 -11/-39600 -10/-36000 SST/-39600|SST11|B-100dghk Csx94dk D4ofw0
Pacific/Nauru|LMT/40060 +1130/41400 +09/32400 +12/43200|<+12>-12|B-pjxiws Cba66ys B1kwca0 Dhfzda0
Pacific/Niue|LMT/-40780 -1120/-40800 -11/-39600|<-11>11|B-8zbv78 C63yiok
Pacific/Norfolk|LMT/40312 +1112/40320 +1130/41400 +1230/45000 +11/39600 +12/43200|<+11>-11<+12>,M10.1.0,M4.1.0/3|B-100f8fs Cq3eins Dcfj8q0 C6hc00 El6nk00 F239aq0
Pacific/Noumea|LMT/39948 +11/39600 +12/43200|<+11>-11|B-u9645o Cye0ixo B4dbw0 Cecqs0 B4f6k0 C99p700 B4oio0
Pacific/Pago_Pago Pacific/Samoa US/Samoa|LMT/45432 LMT/-40968 SST/-39600|SST11|B-14fxxq0 C9nfeo0
Pacific/Palau|LMT/-54124 LMT/32276 +09/32400|<+09>-9|B-1t8izkk Ct83xc0
Pacific/Pitcairn|LMT/-31220 -0830/-30600 -08/-28800|<-08>8|B-100dp8s C1esg26s
Pacific/Pohnpei|LMT/-48428 LMT/37972 +11/39600 +09/32400 +10/36000|<+11>-11|B-1t8j3ys Ct83xc0 D76a42s C29hhk0 E9cmd40 D27sas0 C29fk40
Pacific/Port_Moresby Pacific/Truk|LMT/35320 PMMT/35312 +10/36000|<+10>-10|B-1ayytx4 C7tuao8
Pacific/Rarotonga|LMT/48056 LMT/-38344 -1030/-37800 -0930/-34200 -10/-36000|<-10>10|B-10jifqw Crk6io0 Ddlv68w E5rbw0 Dc8s20 E6ham0 Dc8s20 E6ham0 Dc8s20 E6u9a0 Dc8s20 E6ham0 Dc8s20 E6ham0 Dc8s20 E6ham0 Dc8s20 E6ham0 Dc8s20 E6ham0 Dc8s20 E6u9a0 Dc8s20 E6ham0 Dc8s20 E6ham0 Dc8s20 E6ham0
Pacific/Saipan|LMT/-51420 LMT/34980 +09/32400 GST/36000 GDT/39600 ChST/36000|ChST-10|B-1t8j1no Ct83xc0 Dmpn8no E7t6as0 Dtxp80 E3frms0 Dqdrpo E7kgac D3ljw0 Ec8tg0 D6u7w0 Ebvus0 D6u7w0 E16uo40 D3ljw0 E16aas0 D4ivxo Ecls2c D6h980 Fc65zw0
Pacific/Tahiti|LMT/-35896 -10/-36000|<-10>10|B-tvnayw
Pacific/Tarawa|LMT/41524 +12/43200|<+12>-12|B-100f9dg
Pacific/Tongatapu|LMT/44352 +1220/44400 +13/46800 +14/50400|<+13>-13|B-corjk0 C7znjyo Dk8amdc C8fpc0 Dbvs00 C4bh80 Deelg0 C4bh80 D7pmis0 C3lmo0
Pacific/Wake|LMT/39988 +12/43200|<+12>-12|B-100f86s
Pacific/Wallis|LMT/44120 +12/43200|<+12>-12|B-100fbdk
WET|WET/0 WEST/3600|WET0WEST,M3.5.0/1,M10.5.0|B3s9ms0 A902o0 B9q000 A9d1c0 B9d1c0 A9d1c0 B9q000 A902o0 B9d1c0 A9d1c0 B9d1c0 A9d1c0 B9d1c0 A9d1c0 B9d1c0 A9q000 B9d1c0 A9d1c0 B9d1c0 A9d1c0 B9d1c0 A9d1c0 B9d1c0 A9d1c0 B9d1c0 A9d1c0 B9d1c0 A9q000 B9d1c0 A9d1c0 B9d1c0 A9d1c0 B9d1c0 A9d1c0 B9d1c0 A9d1c0 B9d1c0 A9d1c0 B9q000"

end LineStore.Time
